import Mathlib.Data.List.Induction
import Launcher.Session.Memo

/-!
# A memo answers what would be computed

A memo is watched through calls in any order: queries that are asked, results of the function that
are stored, looks at what is held, and clearing. What the function is called with is written down by
the function itself, as it works on a list of its calls (`recorded`).

The invariant is that the result in the slot is the one the function gives for the query beside it.
It carries everything: an answer from the slot is the answer the function would give, so asking the
memo cannot be told from asking the function, but for the calls that are spared.

> `history_sound` the result that is remembered is that of the query it stands beside
> `query?_history` the query that is remembered is the one kept last
> **`memo_transparent`** what is answered, computed, remembered and counted, after any calls
-/

namespace Launcher

namespace Memo

variable {κ α ε σ : Type}

/-! ## Calls in any order -/

/-- What can be asked of a memo for a function. -/
inductive Call (κ : Type) where
  | get (query : κ)
  | store (query : κ)
  | contains (query : κ)
  | clear
deriving DecidableEq, Repr

variable {f : κ → Except ε α} {memo : Memo κ α} {query : κ} {result : α} {fault : ε}
  {calls : List (Call κ)} {call : Call κ}

namespace Call

/-- The memo is asked for a result. -/
def isGet : Call κ → Bool
  | .get _ => true
  | _ => false

/-- The call leaves the query in the slot: it is asked for or stored, and the function has a result
for it. -/
inductive Keeps (f : κ → Except ε α) (query : κ) : Call κ → Prop
  | get {result : α} (h : f query = .ok result) : Keeps f query (.get query)
  | store {result : α} (h : f query = .ok result) : Keeps f query (.store query)

/-- The call leaves the slot alone. -/
def IsQuiet (f : κ → Except ε α) (call : Call κ) : Prop :=
  call ≠ .clear ∧ ∀ query, ¬call.Keeps f query

/-- A call keeps one query at most. -/
theorem Keeps.unique {other : κ} (h : call.Keeps f query) (h' : call.Keeps f other) :
    other = query := by
  cases h with
  | get _ => cases h' with | get _ => rfl
  | store _ => cases h' with | store _ => rfl

/-- A computation that fails leaves what is remembered. -/
theorem isQuiet_get (hfault : f query = .error fault) : (Call.get query).IsQuiet f := by
  refine ⟨nofun, fun other hkeeps => ?_⟩
  cases hkeeps with
  | get hresult => rw [hfault] at hresult; cases hresult

/-- What cannot be computed is not stored. -/
theorem isQuiet_store (hfault : f query = .error fault) : (Call.store query).IsQuiet f := by
  refine ⟨nofun, fun other hkeeps => ?_⟩
  cases hkeeps with
  | store hresult => rw [hfault] at hresult; cases hresult

theorem isQuiet_contains (query : κ) : (Call.contains query).IsQuiet f := ⟨nofun, nofun⟩

end Call

/-- The query is the one kept last, and nothing has been cleared since. -/
def KeptLast (f : κ → Except ε α) (calls : List (Call κ)) (query : κ) : Prop :=
  ∃ before call rest, calls = before ++ call :: rest ∧ call.Keeps f query ∧
    ∀ later ∈ rest, later.IsQuiet f

theorem not_keptLast_nil (query : κ) : ¬KeptLast f [] query := by
  rintro ⟨before, call, rest, heq, -⟩
  exact absurd heq (by simp)

/-- The query kept last, with one call more. -/
theorem keptLast_concat :
    KeptLast f (calls ++ [call]) query ↔
      call.Keeps f query ∨ (call.IsQuiet f ∧ KeptLast f calls query) := by
  constructor
  · rintro ⟨before, kept, rest, heq, hkept, hrest⟩
    cases rest using List.reverseRecOn with
    | nil =>
      obtain ⟨-, hcall⟩ := List.append_inj' heq rfl
      cases hcall
      exact Or.inl hkept
    | append_singleton rest last =>
      have heq' : calls ++ [call] = (before ++ kept :: rest) ++ [last] := by simpa using heq
      obtain ⟨hcalls, hcall⟩ := List.append_inj' heq' rfl
      cases hcall
      refine Or.inr ⟨hrest call (by simp), before, kept, rest, hcalls, hkept, ?_⟩
      intro later hlater
      exact hrest later (List.mem_append_left _ hlater)
  · rintro (hkept | ⟨hquiet, before, kept, rest, rfl, hkept, hrest⟩)
    · exact ⟨calls, call, [], rfl, hkept, nofun⟩
    · refine ⟨before, kept, rest ++ [call], by simp, hkept, ?_⟩
      intro later hlater
      rcases List.mem_append.mp hlater with hlater | hlater
      · exact hrest later hlater
      · cases List.mem_singleton.mp hlater
        exact hquiet

/-! ## What one call comes to -/

/-- A memo, and the queries that the function has been called with by it. -/
structure Watched (κ α : Type) where
  memo : Memo κ α
  computed : List κ

/-- What one call comes to. -/
inductive Call.Outcome (f : κ → Except ε α) (now : Watched κ α) : Call κ → Watched κ α → Prop
  /-- The query is remembered, and the function is not called. -/
  | hit {query : κ} {result : α} (hquery : now.memo.query? = some query)
      (hresult : f query = .ok result) :
    Outcome f now (.get query) ⟨now.memo.countHit, now.computed⟩
  /-- The function is called, and its result remembered. -/
  | miss {query : κ} {result : α} (hquery : now.memo.query? ≠ some query)
      (hresult : f query = .ok result) :
    Outcome f now (.get query)
      ⟨now.memo.countMiss.store query result, now.computed ++ [query]⟩
  /-- The function is called and fails. -/
  | failed {query : κ} {fault : ε} (hquery : now.memo.query? ≠ some query)
      (hfault : f query = .error fault) :
    Outcome f now (.get query) ⟨now.memo.countMiss, now.computed ++ [query]⟩
  /-- A result is put in. -/
  | stored {query : κ} {result : α} (hresult : f query = .ok result) :
    Outcome f now (.store query) ⟨now.memo.store query result, now.computed⟩
  /-- There is no result to be put in. -/
  | notStored {query : κ} {fault : ε} (hfault : f query = .error fault) :
    Outcome f now (.store query) now
  | looked {query : κ} : Outcome f now (.contains query) now
  | cleared : Outcome f now .clear ⟨now.memo.clear, now.computed⟩

/-- The result that is remembered is the one the function gives for the query beside it. -/
def Sound (f : κ → Except ε α) (memo : Memo κ α) : Prop :=
  ∀ query result, memo.slot = some (query, result) → f query = .ok result

/-- Storing what the function gives keeps the memo sound. -/
theorem sound_store (h : f query = .ok result) (memo : Memo κ α) :
    (memo.store query result).Sound f := by
  intro known kept hslot
  cases hslot
  exact h

variable {now after : Watched κ α}

/-- One call keeps the memo sound. -/
theorem Sound.step (h : now.memo.Sound f) (hcall : call.Outcome f now after) :
    after.memo.Sound f := by
  cases hcall with
  | hit hquery hresult => exact h
  | miss hquery hresult => exact sound_store hresult _
  | failed hquery hfault => exact h
  | stored hresult => exact sound_store hresult _
  | notStored hfault => exact h
  | looked => exact h
  | cleared => exact nofun

/-- A call that keeps a query is the only one that decides what is remembered. -/
theorem query?_step_of_keeps {kept : κ} (hkeeps : call.Keeps f kept)
    (hafter : after.memo.query? = some kept) :
    after.memo.query? = some query ↔
      call.Keeps f query ∨ (call.IsQuiet f ∧ now.memo.query? = some query) := by
  rw [hafter]
  constructor
  · intro hsame
    cases hsame
    exact Or.inl hkeeps
  · rintro (hother | ⟨⟨-, hnone⟩, -⟩)
    · rw [hkeeps.unique hother]
    · exact absurd hkeeps (hnone kept)

/-- A quiet call leaves what is remembered from before. -/
theorem query?_step_of_isQuiet (hquiet : call.IsQuiet f)
    (hafter : after.memo.query? = now.memo.query?) :
    after.memo.query? = some query ↔
      call.Keeps f query ∨ (call.IsQuiet f ∧ now.memo.query? = some query) := by
  rw [hafter]
  constructor
  · intro hbefore
    exact Or.inr ⟨hquiet, hbefore⟩
  · rintro (hkeeps | ⟨-, hbefore⟩)
    · exact absurd hkeeps (hquiet.2 query)
    · exact hbefore

/-- The query that is remembered after a call is the one the call keeps. A call that leaves the slot
alone leaves the query from before. -/
theorem query?_step (hcall : call.Outcome f now after) :
    after.memo.query? = some query ↔
      call.Keeps f query ∨ (call.IsQuiet f ∧ now.memo.query? = some query) := by
  cases hcall with
  | hit hquery hresult => exact query?_step_of_keeps (.get hresult) hquery
  | miss hquery hresult => exact query?_step_of_keeps (.get hresult) rfl
  | failed hquery hfault => exact query?_step_of_isQuiet (Call.isQuiet_get hfault) rfl
  | stored hresult => exact query?_step_of_keeps (.store hresult) rfl
  | notStored hfault => exact query?_step_of_isQuiet (Call.isQuiet_store hfault) rfl
  | looked => exact query?_step_of_isQuiet (Call.isQuiet_contains _) rfl
  | cleared =>
    constructor
    · nofun
    · rintro (hkeeps | ⟨⟨hclear, -⟩, -⟩)
      · cases hkeeps
      · exact absurd rfl hclear

/-- Every query that is asked for is counted once, and as a miss if the function is called. -/
theorem counts_step (hcall : call.Outcome f now after) :
    after.memo.hits + after.memo.misses
      = now.memo.hits + now.memo.misses + (if call.isGet then 1 else 0) ∧
    after.memo.misses + now.computed.length = now.memo.misses + after.computed.length := by
  cases hcall <;> simp [countHit, countMiss, store, clear, Call.isGet] <;> omega

/-! ## A function that writes down its queries -/

variable [BEq κ]

/-- The result of a query, remembered or computed by a function that works on a state. -/
def getOrComputeOn (memo : Memo κ α) (query : κ) (compute : κ → σ → Except ε α × σ) (state : σ) :
    Except ε α × Memo κ α × σ :=
  match memo.find? query with
  | some result => (.ok result, memo.countHit, state)
  | none =>
    match compute query state with
    | (.ok result, after) => (.ok result, memo.countMiss.store query result, after)
    | (.error fault, after) => (.error fault, memo.countMiss, after)

/-- The function, with its queries written down as it is called. -/
def recorded (f : κ → Except ε α) (query : κ) (computed : List κ) : Except ε α × List κ :=
  (f query, computed ++ [query])

/-- A memo does the same with the function and with the one that writes down its queries. What is
written down is the query, unless it is held. -/
theorem getOrComputeOn_recorded (f : κ → Except ε α) (memo : Memo κ α) (query : κ)
    (computed : List κ) :
    memo.getOrComputeOn query (recorded f) computed
      = ((memo.getOrCompute query f).1, (memo.getOrCompute query f).2,
        if memo.holds query then computed else computed ++ [query]) := by
  unfold getOrComputeOn getOrCompute holds recorded
  cases memo.find? query with
  | some result => rfl
  | none => cases f query <;> rfl

/-- One call. A result that the function does not give is not stored. -/
def Call.on (f : κ → Except ε α) (now : Watched κ α) : Call κ → Watched κ α
  | .get query =>
    let asked := now.memo.getOrComputeOn query (recorded f) now.computed
    ⟨asked.2.1, asked.2.2⟩
  | .store query =>
    match f query with
    | .ok result => { now with memo := now.memo.store query result }
    | .error _ => now
  | .contains _ => now
  | .clear => { now with memo := now.memo.clear }

/-- Calls one after the other, of a new memo. -/
def history (f : κ → Except ε α) (calls : List (Call κ)) : Watched κ α :=
  calls.foldl (Call.on f) ⟨Memo.empty, []⟩

theorem history_concat (f : κ → Except ε α) (calls : List (Call κ)) (call : Call κ) :
    history f (calls ++ [call]) = call.on f (history f calls) := by
  unfold history
  rw [List.foldl_append]
  rfl

/-! ## What is remembered -/

variable [LawfulBEq κ]

/-- What is found is remembered, and the function gives the same. -/
theorem Sound.find (h : memo.Sound f) (hfind : memo.find? query = some result) :
    memo.query? = some query ∧ f query = .ok result := by
  have hquery : memo.query? = some query := by
    rw [← holds_iff, holds, hfind]
    rfl
  refine ⟨hquery, ?_⟩
  obtain ⟨⟨known, stored⟩, hslot, hknown⟩ := Option.map_eq_some_iff.mp hquery
  cases hknown
  unfold find? at hfind
  simp only [hslot, BEq.rfl, if_pos, Option.some.injEq] at hfind
  cases hfind
  exact h _ _ hslot

/-- A query that is not found is not the one remembered. -/
theorem query?_ne_of_not_find (hfind : memo.find? query = none) : memo.query? ≠ some query := by
  intro hquery
  rw [← holds_iff, holds, hfind] at hquery
  cases hquery

/-- A memo that remembers what the function gives answers as the function does. -/
theorem Sound.answer (h : memo.Sound f) (query : κ) : (memo.getOrCompute query f).1 = f query := by
  unfold getOrCompute
  cases hfind : memo.find? query with
  | some result => exact (h.find hfind).2.symm
  | none => cases f query <;> rfl

/-- A query that the function fails for leaves the slot as it was. -/
theorem Sound.slot_of_error (h : memo.Sound f) (hfault : f query = .error fault) :
    (memo.getOrCompute query f).2.slot = memo.slot := by
  unfold getOrCompute
  cases hfind : memo.find? query with
  | some result =>
    rw [(h.find hfind).2] at hfault
    cases hfault
  | none =>
    rw [hfault]
    rfl

/-- **What one call comes to**, of a memo that remembers what the function gives. -/
theorem Sound.outcome {now : Watched κ α} (h : now.memo.Sound f) (call : Call κ) :
    call.Outcome f now (call.on f now) := by
  cases call with
  | get query =>
    simp only [Call.on, getOrComputeOn, recorded]
    cases hfind : now.memo.find? query with
    | some result =>
      obtain ⟨hquery, hresult⟩ := h.find hfind
      exact .hit hquery hresult
    | none =>
      have hquery := query?_ne_of_not_find hfind
      cases hresult : f query with
      | ok result => exact .miss hquery hresult
      | error fault => exact .failed hquery hresult
  | store query =>
    simp only [Call.on]
    cases hresult : f query with
    | ok result => exact .stored hresult
    | error fault => exact .notStored hresult
  | contains query => exact .looked
  | clear => exact .cleared

/-! ## After any calls -/

/-- The result that is remembered is the one the function gives for the query it stands beside. -/
theorem history_sound (f : κ → Except ε α) (calls : List (Call κ)) :
    (history f calls).memo.Sound f := by
  induction calls using List.reverseRecOn with
  | nil => exact nofun
  | append_singleton calls call ih =>
    rw [history_concat]
    exact ih.step (ih.outcome call)

/-- **The query that is remembered** is the one kept last. -/
theorem query?_history (f : κ → Except ε α) (calls : List (Call κ)) (query : κ) :
    (history f calls).memo.query? = some query ↔ KeptLast f calls query := by
  induction calls using List.reverseRecOn with
  | nil => exact iff_of_false nofun (not_keptLast_nil query)
  | append_singleton calls call ih =>
    rw [history_concat, query?_step ((history_sound f calls).outcome call), keptLast_concat, ih]

/-- What has been counted. -/
theorem counts_history (f : κ → Except ε α) (calls : List (Call κ)) :
    (history f calls).memo.hits + (history f calls).memo.misses = calls.countP (·.isGet) ∧
    (history f calls).memo.misses = (history f calls).computed.length := by
  induction calls using List.reverseRecOn with
  | nil => exact ⟨rfl, rfl⟩
  | append_singleton calls call ih =>
    obtain ⟨hall, hmisses⟩ := counts_step ((history_sound f calls).outcome call)
    rw [history_concat, List.countP_append, List.countP_singleton]
    exact ⟨by rw [hall, ih.1], by omega⟩

/-- **A memo is transparent.** After any calls of a new memo, asking for a query gives what the
function gives. The function is called, once, exactly if the query is not the one remembered, and if
it fails the slot is left as it was. The query remembered is the one that was last asked for with
success or stored, unless the memo has been cleared since, and it is the only one held. Hits and
misses together are the queries asked for, and the misses are the calls of the function. -/
theorem memo_transparent (f : κ → Except ε α) (calls : List (Call κ)) :
    ∃ memo computed, history f calls = ⟨memo, computed⟩ ∧
      (∀ query, memo.query? = some query → memo.getOrComputeOn query (recorded f) computed
        = (f query, (memo.getOrCompute query f).2, computed)) ∧
      (∀ query, memo.query? ≠ some query → memo.getOrComputeOn query (recorded f) computed
        = (f query, (memo.getOrCompute query f).2, computed ++ [query])) ∧
      (∀ query fault, f query = .error fault → (memo.getOrCompute query f).2.slot = memo.slot) ∧
      (∀ query, memo.query? = some query ↔ KeptLast f calls query) ∧
      (∀ query, memo.holds query = true ↔ KeptLast f calls query) ∧
      memo.hits + memo.misses = calls.countP (·.isGet) ∧ memo.misses = computed.length := by
  have hsound := history_sound f calls
  have hquery := query?_history f calls
  obtain ⟨hasked, hmisses⟩ := counts_history f calls
  refine ⟨(history f calls).memo, (history f calls).computed, rfl, fun query hheld => ?_,
    fun query hother => ?_, fun query fault hfault => hsound.slot_of_error hfault, hquery,
    fun query => (holds_iff _ query).trans (hquery query), hasked, hmisses⟩
  · rw [getOrComputeOn_recorded, hsound.answer, if_pos ((holds_iff _ query).mpr hheld)]
  · rw [getOrComputeOn_recorded, hsound.answer, if_neg fun h => hother ((holds_iff _ query).mp h)]

/-- The length of a text without blanks. -/
def trialLength (query : String) : Except Unit Nat :=
  if query.toList.contains ' ' then .error () else .ok query.length

/-- The empty text is asked for twice, then one that has no length, and one whose length has been
stored, which is asked for again when the memo has been cleared. -/
def trialCalls : List (Call String) :=
  [.get "", .get "", .get "a b", .contains "", .store "code", .get "code", .clear, .get "code"]

/-- The empty text is computed once, the text stored only after the memo has been cleared. -/
theorem trial_transparent : ∃ memo computed,
    history trialLength trialCalls = ⟨memo, computed⟩ ∧
    computed = ["", "a b", "code"] ∧ memo.hits + memo.misses = 5 ∧
    memo.getOrComputeOn "code" (recorded trialLength) computed
      = (.ok 4, (memo.getOrCompute "code" trialLength).2, computed) := by
  obtain ⟨memo, computed, hcalls, hheld, -, -, hkept, -, hasked, -⟩ :=
    memo_transparent trialLength trialCalls
  have hlast : KeptLast trialLength trialCalls "code" :=
    ⟨trialCalls.dropLast, .get "code", [], rfl, .get (show trialLength "code" = .ok 4 from rfl),
      nofun⟩
  refine ⟨memo, computed, hcalls, ?_, hasked, hheld "code" ((hkept "code").mpr hlast)⟩
  exact (congrArg Watched.computed hcalls).symm.trans (by decide)

end Memo

end Launcher
