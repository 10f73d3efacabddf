import Launcher.Proofs.Session.Turn

/-!
# Settled sessions

The parts of a session are updated one by one, and an answer from memory updates none of them. What
keeps them together is one invariant, `Settled`: the memo holds exactly the query shown with the
matches shown, those are what a search of the catalog in use finds, and the background search, if
there is one, was scheduled for the catalog in use.

Searching at once needs less than that (`Ready`) and always ends in a settled session
(`settled_searched`), which is how a session gets settled at its start (`settled_start`) and again
when its catalog is replaced (`Settled.rebuild_cases`). Every other operation keeps a settled
session settled, and in a settled session no search of a text fails (`Settled.run_cases`).
-/

namespace Launcher

namespace Session

/-- What a search at once relies on: a positive whole limit, numeric weights, and nothing but texts
to be searched. -/
structure Ready (limit : Nat) (session : Session) : Prop where
  pos : 0 < limit
  limit_eq : session.limit = .whole limit
  numeric : session.index.weights.Numeric
  held : ∀ held, session.waiting? = some held → held.query.IsText

/-- What is shown, what is remembered and what is searched in the background belong together. -/
structure Settled (limit : Nat) (session : Session) : Prop extends Ready limit session where
  text : session.query.IsText
  shownIndex : session.shownIndex = session.index
  found : session.index.find session.query.value session.limit = .ok session.shown
  slot : session.memo.slot = some (session.query, session.shown)
  pending : ∀ p, session.pending = some p →
    p.query.IsText ∧ p.index = session.index ∧ p.edition = session.edition ∧
      p.generation ≤ session.generation

variable {limit : Nat} {session : Session} {query : Query}

/-- A session that is ready finds every text, and every match has an entry. -/
theorem Ready.find (h : session.Ready limit) (hq : query.IsText) :
    ∃ found, session.index.find query.value session.limit = .ok found ∧
      ∀ m ∈ found, m.position < session.index.entries.length := by
  obtain ⟨s, rfl⟩ := hq
  rw [h.limit_eq]
  exact Index.find_text_ok h.numeric s limit

/-- Every match shown has an entry. -/
theorem Settled.position_lt (h : session.Settled limit) :
    ∀ m ∈ session.shown, m.position < session.index.entries.length := by
  obtain ⟨found, hfound, hpos⟩ := h.find h.text
  rw [h.found] at hfound
  cases hfound
  exact hpos

/-- The results shown are there, and are those of the matches in the catalog in use. -/
theorem Settled.exists_results (h : session.Settled limit) :
    ∃ results, session.results = .ok results ∧
      session.index.results session.shown = .ok results := by
  unfold Session.results
  rw [h.shownIndex]
  obtain ⟨results, hresults⟩ := Index.exists_results h.position_lt
  exact ⟨results, hresults, hresults⟩

/-! ## Every change keeps a session settled -/

/-- A search at once settles a session. -/
theorem settled_searched {found : List (Match Float)} (h : session.Ready limit) (hq : query.IsText)
    (hf : session.index.find query.value session.limit = .ok found) :
    (session.searched query found).Settled limit where
  pos := h.pos
  limit_eq := h.limit_eq
  numeric := h.numeric
  held := h.held
  text := hq
  shownIndex := rfl
  found := hf
  slot := rfl
  pending := nofun

/-- An answer from memory leaves the session settled. -/
theorem Settled.recalled (h : session.Settled limit) : session.recalled.Settled limit :=
  { h with pending := nofun }

/-- Closing leaves the session settled. -/
theorem Settled.close (h : session.Settled limit) : session.close.Settled limit :=
  { h with pending := nofun }

/-- Letting go of what waits leaves the session settled. -/
theorem Settled.released (h : session.Settled limit) : session.released.Settled limit :=
  { h with
    held := fun held hw => by rw [waiting?_released] at hw; cases hw }

/-- Holding a text keeps a session settled: nothing that is shown changes. -/
theorem Settled.holding {debounce : Debounce} (h : session.Settled limit)
    (hd : ∀ held, debounce.waiting? = some held → held.query.IsText) :
    { session with debounce := some debounce }.Settled limit :=
  { h with held := fun held hw => hd held hw }

theorem Settled.withCursor (h : session.Settled limit) (cursor : Cursor) :
    { session with cursor }.Settled limit :=
  { h with }

/-- A refusal by the worker leaves the session settled. -/
theorem Settled.refused (h : session.Settled limit) : session.refused.Settled limit :=
  { h with
    pending := fun p hp => by
      obtain ⟨hq, hi, he, hg⟩ := h.pending p hp
      exact ⟨hq, hi, he, Nat.le_succ_of_le hg⟩ }

/-- A background search of a text leaves the session settled. -/
theorem Settled.scheduled (h : session.Settled limit) (hq : query.IsText) (ticket : Nat) :
    (session.scheduled query ticket).Settled limit :=
  { h with
    pending := fun p hp => by
      cases hp
      exact ⟨hq, rfl, rfl, Nat.le_refl _⟩ }

/-- Showing what the background search found settles the session on its query. -/
theorem Settled.applied {p : Pending} {found : List (Match Float)} (h : session.Settled limit)
    (hp : session.pending = some p)
    (hf : p.index.find p.query.value session.limit = .ok found) :
    (session.applied p found).Settled limit := by
  obtain ⟨hq, hi, -, -⟩ := h.pending p hp
  exact { pos := h.pos, limit_eq := h.limit_eq, numeric := h.numeric, held := h.held
          text := hq, shownIndex := hi, found := by rw [hi] at hf; exact hf
          slot := rfl, pending := nofun }

/-- An index has the weights that it is built with. -/
theorem build_weights {weights : Weights Value} {entries : List Entry} {index : Index}
    (h : Index.build weights entries = .ok index) : index.weights = weights := by
  unfold Index.build at h
  split at h
  · cases h
  · cases h; rfl

/-- With a new catalog the session is ready to search again. -/
theorem Settled.ready_renewed {entries : List Entry} {index : Index} (h : session.Settled limit)
    (hb : Index.build session.index.weights entries = .ok index) :
    (session.renewed index).Ready limit where
  pos := h.pos
  limit_eq := h.limit_eq
  numeric := by
    show index.weights.Numeric
    rw [build_weights hb]
    exact h.numeric
  held := h.held

/-! ## The operations on a settled session -/

/-- A settled session answers the query shown from memory and finds any other. -/
theorem Settled.run_cases (h : session.Settled limit) (hq : query.IsText) :
    (query = session.query ∧ session.run query = (.ok false, session.recalled)) ∨
    query ≠ session.query ∧
      ∃ found, session.index.find query.value session.limit = .ok found ∧
        session.run query = (.ok true, session.searched query found) := by
  have hholds := Memo.holds_iff_of_slot h.slot h.text hq
  rw [run_eq]
  by_cases hsame : query = session.query
  · refine Or.inl ⟨hsame, ?_⟩
    rw [if_pos (hholds.mpr hsame)]
  · refine Or.inr ⟨hsame, ?_⟩
    obtain ⟨found, hf, -⟩ := h.find hq
    refine ⟨found, hf, ?_⟩
    rw [if_neg (fun hc => hsame (hholds.mp hc)), hf]

/-- A search at once of a text leaves the session settled. -/
theorem Settled.run (h : session.Settled limit) (hq : query.IsText) :
    (session.run query).2.Settled limit := by
  rcases h.run_cases hq with ⟨-, he⟩ | ⟨-, found, hf, he⟩
  · rw [he]; exact h.recalled
  · rw [he]; exact settled_searched h.toReady hq hf

/-- A text is always found in a settled session. -/
theorem Settled.run_ok (h : session.Settled limit) (hq : query.IsText) :
    ∃ flag, (session.run query).1 = .ok flag := by
  rcases h.run_cases hq with ⟨-, he⟩ | ⟨-, found, -, he⟩
  · exact ⟨false, by rw [he]⟩
  · exact ⟨true, by rw [he]⟩

/-- Flushing leaves the session settled. -/
theorem Settled.flush (h : session.Settled limit) : session.flush.2.Settled limit := by
  rw [flush_eq]
  cases hw : session.waiting? with
  | none => exact h
  | some held => exact h.released.run (h.held held hw)

/-- Flushing does not fail, since what waits is a text. -/
theorem Settled.flush_ok (h : session.Settled limit) : ∃ flag, session.flush.1 = .ok flag := by
  rw [flush_eq]
  cases hw : session.waiting? with
  | none => exact ⟨false, rfl⟩
  | some held => exact h.released.run_ok (h.held held hw)

/-- A tick leaves the session settled, whatever the time given. -/
theorem Settled.tick (h : session.Settled limit) (now : Value) :
    (session.tick now).2.Settled limit := by
  rcases session.tick_cases now with ⟨fault, he⟩ | he | ⟨-, he⟩
  · rw [he]; exact h
  · rw [he]; exact h
  · rw [he]; exact h.flush

/-- Typing a text leaves the session settled. -/
theorem Settled.textChanged (h : session.Settled limit) (hq : query.IsText) (now : Value) :
    (session.textChanged query now).2.Settled limit := by
  rcases session.textChanged_cases query now with
    ⟨-, he⟩ | ⟨debounce, -, ⟨fault, he⟩ | ⟨holding, hh, he⟩⟩
  · rw [he]; exact h.run hq
  · rw [he]; exact h
  · rw [he]
    refine h.holding fun held hw => ?_
    rw [Debounce.query_of_hold hh held hw]
    exact hq

/-- Replacing the catalog of a settled session either changes nothing, for a repeated id, or
searches the query shown in the new one. -/
theorem Settled.rebuild_cases (h : session.Settled limit) (entries : List Entry) :
    (∃ fault, Index.build session.index.weights entries = .error fault ∧
      session.rebuild entries = (.error fault, session)) ∨
    ∃ index found, Index.build session.index.weights entries = .ok index ∧
      index.find session.query.value session.limit = .ok found ∧
      session.rebuild entries
        = (.ok (), (session.renewed index).searched session.query found) := by
  rcases Session.rebuild_cases session entries with ⟨fault, hb, he⟩ | ⟨index, hb, he⟩
  · exact Or.inl ⟨fault, hb, he⟩
  · obtain ⟨found, hf, -⟩ := (h.ready_renewed hb).find h.text
    refine Or.inr ⟨index, found, hb, hf, ?_⟩
    -- the memo has just been cleared, so even the query shown is searched
    have hnone : (session.renewed index).memo.holds session.query = false :=
      Memo.holds_of_slot_eq_none rfl session.query
    have hrun : (session.renewed index).run session.query
        = (.ok true, (session.renewed index).searched session.query found) := by
      rw [run_eq, hnone, if_neg Bool.false_ne_true, hf]
    rw [he, hrun]
    rfl

/-- A new catalog leaves the session settled, also one that is refused. -/
theorem Settled.rebuild (h : session.Settled limit) (entries : List Entry) :
    (session.rebuild entries).2.Settled limit := by
  rcases h.rebuild_cases entries with ⟨fault, -, he⟩ | ⟨index, found, hb, hf, he⟩
  · rw [he]; exact h
  · rw [he]; exact settled_searched (h.ready_renewed hb) h.text hf

/-- Polling keeps a session settled if a search that is done holds what its index finds. -/
theorem Settled.poll {status : Nat → JobStatus} (h : session.Settled limit)
    (hs : ∀ p found, session.pending = some p → status p.ticket = .found found →
      p.index.find p.query.value session.limit = .ok found) :
    (session.poll status).2.Settled limit := by
  rcases session.poll_cases status with
    ⟨-, he⟩ | ⟨p, hp, -, ⟨-, he⟩ | ⟨-, ⟨found, hst, he⟩ | ⟨fault, -, he⟩⟩⟩
  · rw [he]; exact h
  · rw [he]; exact h.close
  · rw [he]; exact h.applied hp (hs p found hp hst)
  · rw [he]; exact h.close

/-- What is shown follows from the catalog, the limit and the query alone. -/
theorem Settled.same_view {other : Session} (h : session.Settled limit)
    (hother : other.Settled limit) (hindex : other.index = session.index)
    (hquery : other.query = session.query) :
    other.shown = session.shown ∧
      ∃ results, other.results = .ok results ∧ session.results = .ok results := by
  have hshown : other.shown = session.shown := by
    have hfound := hother.found
    rw [hindex, hquery, hother.limit_eq, ← h.limit_eq, h.found] at hfound
    exact (Except.ok.inj hfound).symm
  obtain ⟨results, hresults, hfound⟩ := h.exists_results
  obtain ⟨results', hresults', hfound'⟩ := hother.exists_results
  rw [hindex, hshown, hfound] at hfound'
  cases hfound'
  exact ⟨hshown, results, hresults', hresults⟩

/-! ## The start -/

/-- A new session, before it has searched anything. -/
def blank (limit : Number) (index : Index) (cursor : Cursor) (debounce : Option Debounce) :
    Session :=
  { index, edition := 0, limit, cursor, memo := Memo.empty, debounce, generation := 0,
    pending := none, query := Query.ofText "", shown := [], shownIndex := index,
    tally := Tally.zero }

/-- What has been done once a session is started. -/
theorem start_cases {config : Config} {entries : List Entry}
    (h : start config entries = .ok session) :
    ∃ number index cursor debounce,
      config.limit.positive "limit" = .ok number ∧
      Index.build config.weights entries = .ok index ∧
      Cursor.create config.pageSize = .ok cursor ∧
      openDebounce config.debounceMs = .ok debounce ∧
      ∃ flag, (blank number index cursor debounce).run (Query.ofText "") = (.ok flag, session) := by
  unfold start at h
  obtain ⟨number, hn, h⟩ := exists_of_bind_eq_ok h
  obtain ⟨index, hi, h⟩ := exists_of_bind_eq_ok h
  obtain ⟨cursor, hc, h⟩ := exists_of_bind_eq_ok h
  obtain ⟨debounce, hd, h⟩ := exists_of_bind_eq_ok h
  refine ⟨number, index, cursor, debounce, hn, hi, hc, hd, ?_⟩
  have hrun : ((blank number index cursor debounce).run (Query.ofText "")).1.map
      (fun _ => ((blank number index cursor debounce).run (Query.ofText "")).2)
      = .ok session := h
  cases hr : (blank number index cursor debounce).run (Query.ofText "") with
  | mk result started =>
    rw [hr] at hrun
    cases result with
    | error fault => cases hrun
    | ok flag => cases hrun; exact ⟨flag, rfl⟩

/-- A session starts with nothing held. -/
theorem waiting?_of_openDebounce {milliseconds : Value} {debounce : Option Debounce}
    (h : openDebounce milliseconds = .ok debounce) : debounce.bind Debounce.waiting? = none := by
  unfold openDebounce at h
  obtain ⟨number, -, h⟩ := exists_of_bind_eq_ok h
  split at h
  · cases hc : Debounce.create milliseconds with
    | error fault => rw [hc] at h; cases h
    | ok created =>
      rw [hc] at h
      cases h
      unfold Debounce.create at hc
      obtain ⟨given, -, hc⟩ := exists_of_bind_eq_ok hc
      obtain ⟨interval, -, hc⟩ := exists_of_bind_eq_ok hc
      cases hc
      rfl
  · cases h; rfl

/-- A session starts with no background search. -/
theorem pending_start {config : Config} {entries : List Entry}
    (h : start config entries = .ok session) : session.pending = none := by
  obtain ⟨number, index, cursor, debounce, -, -, -, -, flag, hr⟩ := start_cases h
  have hp := (blank number index cursor debounce).pending_run (Query.ofText "")
  rw [hr] at hp
  rcases hp with hp | hp
  · exact hp
  · exact hp

/-- Nothing waits at the start. -/
theorem waiting?_start {config : Config} {entries : List Entry}
    (h : start config entries = .ok session) : session.waiting? = none := by
  obtain ⟨number, index, cursor, debounce, -, -, -, hd, flag, hr⟩ := start_cases h
  have hw := (blank number index cursor debounce).waiting?_run (Query.ofText "")
  rw [hr] at hw
  exact hw.trans (waiting?_of_openDebounce hd)

/-- **A session starts settled**, on the empty query. -/
theorem settled_start {config : Config} {entries : List Entry}
    (hstart : start config entries = .ok session) (hlimit : config.limit = .int limit)
    (hweights : config.weights.Numeric) : session.Settled limit := by
  obtain ⟨number, index, cursor, debounce, hn, hi, -, hd, flag, hr⟩ := start_cases hstart
  rw [hlimit] at hn
  obtain ⟨rfl, hpos⟩ := Value.positive_int hn
  have hready : (blank (.whole limit) index cursor debounce).Ready limit :=
    { pos := by omega, limit_eq := rfl
      numeric := by
        show index.weights.Numeric
        rw [build_weights hi]
        exact hweights
      held := fun held hw => by
        have hnone : (blank (.whole limit) index cursor debounce).waiting? = none :=
          waiting?_of_openDebounce hd
        rw [hnone] at hw
        cases hw }
  -- the memo is empty, so the first search is a search
  obtain ⟨found, hf, -⟩ := hready.find ⟨"", rfl⟩
  have hmiss : (blank (.whole limit) index cursor debounce).memo.holds (Query.ofText "") = false :=
    Memo.holds_of_slot_eq_none rfl _
  rw [run_eq, hmiss, if_neg Bool.false_ne_true, hf] at hr
  cases hr
  exact settled_searched hready ⟨"", rfl⟩ hf

end Session

end Launcher
