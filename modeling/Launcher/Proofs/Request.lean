import Launcher.Proofs.Catalog.Resolve
import Launcher.Proofs.Config.Stored
import Launcher.Proofs.Session.Holding
import Launcher.Proofs.Session.Selection
import Launcher.Request

/-!
# A request is one search

A request starts a session, types its query into it and flushes what is held. Whether or not the
configuration makes typing wait, and whether or not the query is the empty one that a new session
has searched already, the session then shows the query with what an index of the catalog finds for
it (`Request.start_searched`). So a request answers what one search of that index gives.

> `Session.start_of_proper` a session starts on a configuration that has been read, unless the
> delay in it is beyond every double
> `Request.search_eq` a request with such a configuration gives the results of one search
-/

namespace Launcher

open Config

variable {config : Config} {entries : List Entry} {limit : Nat} {x : Float}

namespace Config

/-- The configuration with the largest number of results that a request asks for. -/
def limitedTo (config : Config) : Option Int → Config
  | none => config
  | some top => config.put .limit (.int top)

/-- Another limit leaves a configuration proper. -/
theorem Proper.limitedTo (h : config.Proper) {top? : Option Int} (htop : ∀ top ∈ top?, 1 ≤ top) :
    (config.limitedTo top?).Proper := by
  cases top? with
  | none => exact h
  | some top => exact h.put ⟨top, htop top rfl, rfl⟩

theorem limit_limitedTo (config : Config) (top? : Option Int) :
    (config.limitedTo top?).limit = (top?.map Value.int).getD config.limit := by
  cases top? <;> rfl

theorem weights_limitedTo (config : Config) (top? : Option Int) :
    (config.limitedTo top?).weights = config.weights := by
  cases top? <;> rfl

theorem debounceMs_limitedTo (config : Config) (top? : Option Int) :
    (config.limitedTo top?).debounceMs = config.debounceMs := by
  cases top? <;> rfl

/-- The weights of a configuration that has been read are doubles. -/
theorem Proper.numeric (h : config.Proper) : config.weights.Numeric := by
  obtain ⟨prefixBonus, hprefix⟩ := h .prefixBonus
  obtain ⟨titleMultiplier, htitle⟩ := h .titleMultiplier
  obtain ⟨keywordMultiplier, hkeyword⟩ := h .keywordMultiplier
  refine ⟨⟨prefixBonus, titleMultiplier, keywordMultiplier⟩, ?_⟩
  unfold Config.weights
  rw [show config.prefixBonus = .float prefixBonus from hprefix,
    show config.titleMultiplier = .float titleMultiplier from htitle,
    show config.keywordMultiplier = .float keywordMultiplier from hkeyword]
  rfl

/-- The limit of a configuration that has been read is a positive whole number. -/
theorem Proper.exists_limit (h : config.Proper) :
    ∃ limit : Nat, 0 < limit ∧ config.limit = .int limit := by
  obtain ⟨n, hn, hlimit⟩ := h .limit
  refine ⟨n.toNat, by omega, ?_⟩
  rw [show config.limit = .int n from hlimit]
  congr 1
  omega

end Config

namespace Session

variable {session : Session} {query : Query}

/-- Searching at once puts the cursor on the first row, or leaves it there. -/
theorem AtFirst.run (hfirst : session.AtFirst) (h : session.Settled limit) (hq : query.IsText) :
    (session.run query).2.AtFirst := by
  rcases h.run_cases hq with ⟨-, he⟩ | ⟨-, found, -, he⟩
  · rw [he]
    exact hfirst
  · rw [he]
    exact atFirst_of_reset rfl

/-- An interval that is not negative can be waited for. -/
theorem openDebounce_ok {n : Int} (hn : 0 ≤ n) (hx : (Value.int n).asDouble = .ok x) :
    ∃ debounce, openDebounce (.int n) = .ok debounce := by
  have hnonneg : (Value.int n).nonNegative "interval_ms" = .ok (.whole n) := by
    show (if (Number.whole n).less (.whole 0) then _ else _) = _
    rw [Number.less_whole, if_neg (by simpa using hn)]
  show ∃ debounce, (if (Number.whole 0).less (.whole n)
    then (Debounce.create (.int n)).map some else .ok none) = .ok debounce
  by_cases hpos : (Number.whole 0).less (.whole n) = true
  · rw [if_pos hpos]
    unfold Debounce.create
    rw [hnonneg]
    refine ⟨some ⟨x / 1000.0, none⟩, ?_⟩
    show Except.map some ((Value.int n).asDouble >>= fun given =>
      Except.ok (Debounce.mk (given / 1000.0) none)) = _
    rw [hx]
    rfl
  · rw [if_neg hpos]
    exact ⟨none, rfl⟩

/-- **A session starts** on a configuration that has been read and a catalog with distinct ids,
unless no double holds the delay. -/
theorem start_of_proper (h : config.Proper) (hlimit : config.limit = .int limit)
    (hx : config.debounceMs.asDouble = .ok x) (hnodup : (entries.map Entry.id).Nodup) :
    ∃ session, start config entries = .ok session ∧ session.Settled limit ∧ session.AtFirst ∧
      session.index = Index.ofDistinct config.weights entries hnodup := by
  obtain ⟨n, hn, hcount⟩ := h .limit
  obtain ⟨size, hsize, hpage⟩ := h .pageSize
  obtain ⟨delay, hdelay, hms⟩ := h .debounceMs
  have hnumber : config.limit.positive "limit" = .ok (.whole n) := by
    rw [show config.limit = .int n from hcount, Value.positive_int_eq, if_neg (by omega)]
  have hbuild := Index.build_of_nodup config.weights hnodup
  have hcursor : Cursor.create config.pageSize = .ok ⟨.whole size, 0, none⟩ := by
    unfold Cursor.create
    rw [show config.pageSize = .int size from hpage, Value.positive_int_eq, if_neg (by omega)]
    rfl
  rw [show config.debounceMs = .int delay from hms] at hx
  obtain ⟨debounce, hdebounce⟩ := openDebounce_ok hdelay hx
  -- the session searches the empty query once, and that search succeeds
  obtain ⟨found, hfound, -⟩ := (Index.ofDistinct config.weights entries hnodup).find_text_ok
    h.numeric "" limit
  let fresh := blank (.whole n) (.ofDistinct config.weights entries hnodup)
    ⟨.whole size, 0, none⟩ debounce
  have hrun : fresh.run (Query.ofText "") = (.ok true, fresh.searched (Query.ofText "") found) := by
    have hsame : n = limit := by
      rw [show config.limit = .int n from hcount] at hlimit
      exact Value.int.inj hlimit
    have hfind : fresh.index.find (Query.ofText "").value fresh.limit = .ok found := by
      show Index.find _ _ (.whole n) = _
      rw [hsame]
      exact hfound
    rw [run_eq, Memo.holds_of_slot_eq_none rfl, if_neg Bool.false_ne_true, hfind]
  have hstart : start config entries = .ok (fresh.searched (Query.ofText "") found) := by
    unfold start
    rw [hnumber, hbuild, hcursor, show config.debounceMs = .int delay from hms, hdebounce]
    show (fresh.run (Query.ofText "")).1.map (fun _ => (fresh.run (Query.ofText "")).2) = _
    rw [hrun]
    rfl
  exact ⟨_, hstart, settled_start hstart hlimit h.numeric, atFirst_of_reset rfl, rfl⟩

end Session

namespace Request

variable {session : Session} {query : Query}

/-- **Typing and flushing shows the query**, whether it is held in between or not. -/
theorem searched_ok (h : session.Settled limit) (hfirst : session.AtFirst) (hq : query.IsText) :
    ∃ after, searched session query = .ok after ∧ after.Settled limit ∧ after.AtFirst ∧
      after.query = query ∧ after.index = session.index := by
  cases hd : session.debounce with
  | none =>
    -- the flush has nothing to do
    obtain ⟨flag, hok⟩ := h.run_ok hq
    obtain ⟨hquery, hindex, hdebounce⟩ := h.query_run hq
    have htyped : session.textChanged query (.float 0.0) = session.run query := by
      unfold Session.textChanged
      rw [hd]
    have hflush : (session.run query).2.flush = (.ok false, (session.run query).2) := by
      have hnone : (session.run query).2.waiting? = none := by
        unfold Session.waiting?
        rw [hdebounce, hd]
        rfl
      rw [Session.flush_eq, hnone]
    refine ⟨(session.run query).2, ?_, h.run hq, hfirst.run h hq, hquery, hindex⟩
    unfold searched
    simp only [htyped, hflush, hok]
    rfl
  | some debounce =>
    -- the text is held, and the flush searches it
    let holding : Debounce := { debounce with held := some ⟨0.0 + debounce.interval, query⟩ }
    let typed : Session := { session with debounce := some holding }
    have hwaits : typed.waiting? = some ⟨0.0 + debounce.interval, query⟩ := by
      obtain ⟨s, rfl⟩ := hq
      rfl
    have htyped : session.textChanged query (.float 0.0) = (.ok false, typed) := by
      unfold Session.textChanged
      rw [hd]
      rfl
    have hsettled : typed.Settled limit := h.holding fun held hheld => by
      have hsame := hwaits.symm.trans hheld
      cases hsame
      exact hq
    obtain ⟨flag, hok⟩ := hsettled.released.run_ok hq
    have hflush : typed.flush = typed.released.run query := by
      rw [Session.flush_eq, hwaits]
    obtain ⟨hquery, hindex, -⟩ := hsettled.released.query_run hq
    have hreleased : typed.released.AtFirst := hfirst
    refine ⟨(typed.released.run query).2, ?_, hsettled.released.run hq,
      hreleased.run hsettled.released hq, hquery, hindex⟩
    unfold searched
    simp only [htyped, hflush, hok]
    rfl

/-- The first row of some matches, if there is one. -/
def firstRow? (found : List (Match Float)) : Option Number :=
  if found.isEmpty then none else some (.whole 0)

/-- Typing and flushing keeps the cursor on the matches shown. -/
theorem marked_searched {pageSize : Int} {after : Session} (h : session.Marked pageSize)
    (hsearched : searched session query = .ok after) : after.Marked pageSize := by
  unfold searched at hsearched
  obtain ⟨typed, -, hsearched⟩ := exists_of_bind_eq_ok hsearched
  obtain ⟨flushed, -, hsearched⟩ := exists_of_bind_eq_ok hsearched
  cases hsearched
  exact (h.reshows (session.reshows_textChanged query (.float 0.0))).reshows
    (Session.reshows_flush _)

/-- **A session that is started and searches a text** shows what an index of the catalog finds for
it, and the first row of that is marked. -/
theorem start_settled (h : config.Proper) (hx : config.debounceMs.asDouble = .ok x)
    (hnodup : (entries.map Entry.id).Nodup) (t : Text) :
    ∃ limit pageSize fresh after, Session.start config entries = .ok fresh ∧
      searched fresh (.ofText t) = .ok after ∧
      after.Settled limit ∧ after.Marked pageSize ∧ after.AtFirst ∧
      after.index = Index.ofDistinct config.weights entries hnodup ∧
      after.index.search (.text t) config.limit = .ok after.shown := by
  obtain ⟨limit, hpos, hlimit⟩ := h.exists_limit
  obtain ⟨pageSize, -, hpage⟩ := h .pageSize
  obtain ⟨fresh, hstart, hsettled, hfirst, hindex⟩ := Session.start_of_proper h hlimit hx hnodup
  obtain ⟨after, hsearched, hafter, hrow, hquery, hsame⟩ := searched_ok hsettled hfirst ⟨t, rfl⟩
  have hmarked := marked_searched (Session.marked_start hstart hpage) hsearched
  refine ⟨limit, pageSize, fresh, after, hstart, hsearched, hafter, hmarked, hrow,
    hsame.trans hindex, ?_⟩
  have hfound := hafter.found
  rw [hquery, hafter.limit_eq] at hfound
  rw [hlimit, Index.search_int hpos]
  exact hfound

/-- What such a session shows, and where its cursor is. -/
theorem start_searched (h : config.Proper) (hx : config.debounceMs.asDouble = .ok x)
    (hnodup : (entries.map Entry.id).Nodup) (t : Text) :
    ∃ fresh after found results, Session.start config entries = .ok fresh ∧
      searched fresh (.ofText t) = .ok after ∧
      after.index = Index.ofDistinct config.weights entries hnodup ∧
      after.index.search (.text t) config.limit = .ok found ∧
      after.index.results found = .ok results ∧ after.results = .ok results ∧
      after.cursor.index = firstRow? found := by
  obtain ⟨limit, pageSize, fresh, after, hstart, hsearched, hafter, -, hrow, hindex, hfound⟩ :=
    start_settled h hx hnodup t
  obtain ⟨results, hresults, hshown⟩ := hafter.exists_results
  exact ⟨fresh, after, after.shown, results, hstart, hsearched, hindex, hfound, hshown, hresults,
    hrow⟩

/-! ## The configuration of a request -/

variable {machine : Machine}

/-- The largest number of results as a request names it; none is null. -/
def topValue (top? : Option Int) : Value := (top?.map Value.int).getD .null

/-- A request that asks for the stored configuration gets it, with the limit that it names. -/
theorem resolveConfig_stored (hstored : Config.stored machine = .ok config) {top? : Option Int}
    (htop : ∀ top ∈ top?, 1 ≤ top) :
    (limitOverride (topValue top?) >>= resolveConfig machine (.stored .null .null))
      = .ok (config.limitedTo top?) := by
  have hsource : source machine (.stored .null .null) = .ok (config, .object []) := by
    show Except.map _ (Config.load.on machine).1 = _
    rw [Config.load_on, hstored]
    rfl
  cases top? with
  | none =>
    show resolveConfig machine (.stored .null .null) [] = .ok config
    unfold resolveConfig
    rw [hsource]
    rfl
  | some top =>
    have hone : 1 ≤ top := htop top rfl
    have hover : limitOverride (.int top) = .ok [(Setting.limit.key, .int top)] := by
      show (asRequest ((Value.int top).positive "top")).map _ = _
      rw [Value.positive_int_eq, if_neg (by omega)]
      rfl
    have hchange : config.changeAll [(Setting.limit.key, .int top)]
        = .ok (config.put .limit (.int top)) := by
      show (config.change .limit (.int top) >>= fun changed => .ok changed) = _
      unfold Config.change readSetting readCount checkedCount
      simp only [if_neg (show ¬top < 1 by omega)]
      rfl
    show (limitOverride (.int top) >>= _) = _
    rw [hover]
    show resolveConfig machine (.stored .null .null) _ = _
    unfold resolveConfig
    rw [hsource]
    show asRequest (config.changeAll [(Setting.limit.key, .int top)]) = _
    rw [hchange]
    rfl

/-- A catalog with its built-in entries has distinct ids. -/
theorem nodup_of_withBuiltins {loaded : Warned (List Entry)} {builtins : List Entry}
    (h : (Catalog.withBuiltins builtins loaded).result = .ok entries) :
    (entries.map Entry.id).Nodup := by
  unfold Catalog.withBuiltins Catalog.dedupe at h
  split at h
  · next hfault => rw [hfault] at h; cases h
  · cases h
    exact (Catalog.firstPerId_distinct [] _).1

/-- The entries of a resolved catalog have distinct ids. -/
theorem nodup_of_resolve {given : Value} {builtins : List Entry}
    (h : (Catalog.resolve machine given builtins).result = .ok entries) :
    (entries.map Entry.id).Nodup :=
  nodup_of_withBuiltins h

/-- **A request is one search**: with the stored configuration it gives the results of a search of
the index of the resolved catalog, with the stored weights, and the limit asked for, or else the
stored one. -/
theorem search_eq (hstored : Config.stored machine = .ok config)
    (hx : config.debounceMs.asDouble = .ok x) {top? : Option Int} (htop : ∀ top ∈ top?, 1 ≤ top)
    {given : Value} {flag : Bool}
    (hloads : (Catalog.resolve machine given (Catalog.included machine.platform flag)).result
      = .ok entries)
    (t : Text) :
    let index := Index.ofDistinct config.weights entries (nodup_of_resolve hloads)
    ∃ found results, index.search (.text t) ((top?.map Value.int).getD config.limit) = .ok found ∧
      index.results found = .ok results ∧
      search machine ⟨none, given, flag, .stored .null .null⟩ (.ofText t) (topValue top?)
        = ⟨(Catalog.resolve machine given (Catalog.included machine.platform flag)).warnings,
            .ok results⟩ := by
  intro index
  have hproper := (Config.stored_proper hstored).limitedTo htop
  rw [← config.debounceMs_limitedTo top?] at hx
  obtain ⟨fresh, after, found, results, hstart, hsearched, hindex, hfound, hshown, hresults, -⟩ :=
    start_searched hproper hx (nodup_of_resolve hloads) t
  rw [config.weights_limitedTo] at hindex
  rw [hindex, config.limit_limitedTo] at hfound
  rw [hindex] at hshown
  refine ⟨found, results, hfound, hshown, ?_⟩
  have hconfig := resolveConfig_stored hstored htop
  have hentries : resolveEntries machine ⟨none, given, flag, .stored .null .null⟩
      = Catalog.resolve machine given (Catalog.included machine.platform flag) := rfl
  unfold search
  simp only [hconfig, hentries, hloads]
  show (⟨_, Session.start (config.limitedTo top?) entries >>= fun session =>
    searched session (.ofText t) >>= Session.results⟩ : Warned (List Result)) = _
  rw [hstart]
  show (⟨_, searched fresh (.ofText t) >>= Session.results⟩ : Warned (List Result)) = _
  rw [hsearched, ← hresults]
  rfl

end Request

end Launcher
