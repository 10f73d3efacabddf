import Mathlib.Algebra.Order.BigOperators.Group.List
import Mathlib.Data.List.DropRight
import Launcher.Proofs.Search.Band
import Launcher.Session.Stats

/-!
# The statistics are those of the searches that were scored

Sum, shortest and longest are kept up to date search by search, and a search answered from memory
leaves them alone. `Stats.summary` computes the same from the list of the durations at once.
Recording a search appends to that list or leaves it (`record_cached`, `record_scored`), so on exact
durations the statistics are, after any calls, the summary of what has been scored since the last
reset (`history_eq`).

The mean lies between the shortest and the longest because the sum does, taken as many times as
there are durations. That it never divides by zero is said as for scores: on `Guarded` durations,
where such a division spoils what it enters, all is as on the durations below
(`Carries.average_map`).

> **`history_summarises`** what the statistics say after any calls
-/

namespace Launcher

namespace Stats

/-- What can be asked of statistics. -/
inductive Call (α : Type) where
  | record (duration : α) (cached : Bool)
  | reset

variable {α β : Type}

namespace Call

/-- The statistics are put back to nothing. -/
def isReset : Call α → Bool
  | .record _ _ => false
  | .reset => true

/-- A search answered from memory is recorded. -/
def isCached : Call α → Bool
  | .record _ cached => cached
  | .reset => false

/-- The duration that is recorded of a search that was scored. -/
def scored? : Call α → Option α
  | .record duration false => some duration
  | _ => none

/-- The same call with another form of durations. -/
def map (f : α → β) : Call α → Call β
  | .record duration cached => .record (f duration) cached
  | .reset => .reset

/-- The statistics after a call. -/
def on [Duration α] (stats : Stats α) : Call α → Stats α
  | .record duration cached => (stats.record duration cached).2
  | .reset => empty

end Call

/-- New statistics after calls one after the other. -/
def history [Duration α] (calls : List (Call α)) : Stats α := calls.foldl Call.on empty

theorem history_concat [Duration α] (calls : List (Call α)) (call : Call α) :
    history (calls ++ [call]) = call.on (history calls) := by
  unfold history
  rw [List.foldl_append]
  rfl

/-- The calls since the last reset. -/
def sinceReset (calls : List (Call α)) : List (Call α) := calls.rtakeWhile fun call => !call.isReset

/-- The durations of the searches scored since the last reset. -/
def scored (calls : List (Call α)) : List α := (sinceReset calls).filterMap (·.scored?)

/-- The searches answered from memory since the last reset. -/
def cachedCount (calls : List (Call α)) : Nat := (sinceReset calls).countP (·.isCached)

/-- A search is recorded behind those since the last reset. -/
theorem sinceReset_record (calls : List (Call α)) (duration : α) (cached : Bool) :
    sinceReset (calls ++ [.record duration cached])
      = sinceReset calls ++ [.record duration cached] :=
  List.rtakeWhile_concat_pos _ _ _ rfl

/-- After a reset nothing has been recorded. -/
theorem sinceReset_reset (calls : List (Call α)) : sinceReset (calls ++ [.reset]) = [] :=
  List.rtakeWhile_concat_neg _ _ _ nofun

/-- A search that was scored adds its duration, one from memory does not. -/
theorem scored_record (calls : List (Call α)) (duration : α) (cached : Bool) :
    scored (calls ++ [.record duration cached])
      = if cached then scored calls else scored calls ++ [duration] := by
  unfold scored
  rw [sinceReset_record, List.filterMap_append]
  cases cached with
  | true => exact List.append_nil _
  | false => rfl

/-- A search answered from memory is counted as such. -/
theorem cachedCount_record (calls : List (Call α)) (duration : α) (cached : Bool) :
    cachedCount (calls ++ [.record duration cached])
      = cachedCount calls + if cached then 1 else 0 := by
  unfold cachedCount
  rw [sinceReset_record, List.countP_append, List.countP_singleton]
  rfl

/-! ## Exact durations -/

/-- The statistics of searches, from the durations of those scored and the number of the others. -/
def summary (durations : List ℚ) (cached : Nat) : Stats ℚ :=
  ⟨⟨durations.length + cached, cached, durations.length⟩, durations.sum, durations.min?,
    durations.max?⟩

/-- One more duration, where the choice between two prefers as `pick` does. -/
theorem better_foldl {prefers : ℚ → ℚ → Bool} {pick : ℚ → ℚ → ℚ}
    (hpick : ∀ duration known,
      (if prefers duration known then duration else known) = pick known duration)
    (first : ℚ) (rest : List ℚ) (duration : ℚ) :
    better prefers duration (some (rest.foldl pick first))
      = some ((rest ++ [duration]).foldl pick first) := by
  rw [List.foldl_append, List.foldl_cons, List.foldl_nil, ← hpick]
  exact (apply_ite some _ _ _).symm

/-- The shortest duration is kept up to date. -/
theorem better_min? (durations : List ℚ) (duration : ℚ) :
    better Duration.less duration durations.min? = (durations ++ [duration]).min? := by
  cases durations with
  | nil => rfl
  | cons first rest =>
    refine better_foldl (fun x known => ?_) first rest duration
    show (if decide (x < known) = true then x else known) = min known x
    grind

/-- The longest duration is kept up to date. -/
theorem better_max? (durations : List ℚ) (duration : ℚ) :
    better (fun x y => Duration.less y x) duration durations.max?
      = (durations ++ [duration]).max? := by
  cases durations with
  | nil => rfl
  | cons first rest =>
    refine better_foldl (fun x known => ?_) first rest duration
    show (if decide (known < x) = true then x else known) = max known x
    grind

/-- A search answered from memory leaves the durations. -/
theorem record_cached (durations : List ℚ) (cached : Nat) (duration : ℚ) :
    (summary durations cached).record duration true
      = (.ok (), summary durations (cached + 1)) := rfl

/-- A search that was scored adds its duration. -/
theorem record_scored (durations : List ℚ) (cached : Nat) (duration : ℚ) :
    (summary durations cached).record duration false
      = (.ok (), summary (durations ++ [duration]) cached) := by
  have hunfold : (summary durations cached).record duration false
      = (.ok (), ⟨⟨durations.length + cached + 1, cached, durations.length + 1⟩,
        durations.sum + duration, better Duration.less duration durations.min?,
        better (fun x y => Duration.less y x) duration durations.max?⟩) := rfl
  rw [hunfold, better_min?, better_max?]
  unfold summary
  rw [List.length_append, List.sum_append, List.length_singleton, List.sum_singleton,
    Nat.add_right_comm]

/-- **The statistics are the summary of what has been scored** since the last reset. -/
theorem history_eq (calls : List (Call ℚ)) :
    history calls = summary (scored calls) (cachedCount calls) := by
  induction calls using List.reverseRecOn with
  | nil => rfl
  | append_singleton calls call ih =>
    rw [history_concat, ih]
    cases call with
    | reset =>
      unfold scored cachedCount
      rw [sinceReset_reset]
      rfl
    | record duration cached =>
      rw [scored_record, cachedCount_record]
      cases cached with
      | true => exact congrArg Prod.snd (record_cached _ _ duration)
      | false => exact congrArg Prod.snd (record_scored _ _ duration)

/-- The mean of some durations lies between the shortest and the longest. -/
theorem average_between {durations : List ℚ} (hsome : durations ≠ []) (cached : Nat) :
    ∃ fastest slowest, durations.min? = some fastest ∧ durations.max? = some slowest ∧
      fastest ≤ (summary durations cached).average ∧
      (summary durations cached).average ≤ slowest := by
  obtain ⟨fastest, hfastest⟩ := Option.ne_none_iff_exists'.mp (mt List.min?_eq_none_iff.mp hsome)
  obtain ⟨slowest, hslowest⟩ := Option.ne_none_iff_exists'.mp (mt List.max?_eq_none_iff.mp hsome)
  have hcount : durations.length ≠ 0 := mt List.length_eq_zero_iff.mp hsome
  have hpos : (0 : ℚ) < durations.length := Nat.cast_pos.mpr (Nat.pos_of_ne_zero hcount)
  have haverage : (summary durations cached).average = durations.sum / durations.length :=
    if_neg hcount
  have hleast := List.card_nsmul_le_sum durations fastest (List.min?_eq_some_iff.mp hfastest).2
  have hgreatest := List.sum_le_card_nsmul durations slowest (List.max?_eq_some_iff.mp hslowest).2
  rw [nsmul_eq_mul] at hleast hgreatest
  refine ⟨fastest, slowest, hfastest, hslowest, ?_, ?_⟩
  · rw [haverage, le_div_iff₀ hpos, mul_comm]
    exact hleast
  · rw [haverage, div_le_iff₀ hpos, mul_comm]
    exact hgreatest

/-! ## Divisions by zero -/

/-- The choice between two durations does not depend on their form. -/
theorem better_map {f : α → β} {prefers : α → α → Bool} {prefers' : β → β → Bool}
    (hprefers : ∀ x y, prefers' (f x) (f y) = prefers x y) (duration : α) (known : Option α) :
    better prefers' (f duration) (known.map f) = (better prefers duration known).map f := by
  cases known with
  | none => rfl
  | some known =>
    show (if prefers' (f duration) (f known) = true then some (f duration) else some (f known))
      = Option.map f (if prefers duration known = true then some duration else some known)
    rw [hprefers, apply_ite (Option.map f)]
    rfl

section Carries

variable [Duration α] [Duration β]

/-- The function keeps sums, the order and equal shares, but for the shares among none. -/
structure Carries (f : α → β) : Prop where
  zero : Duration.zero = f Duration.zero
  add : ∀ x y, Duration.add (f x) (f y) = (Duration.add x y).map f
  less : ∀ x y, Duration.less (f x) (f y) = Duration.less x y
  share : ∀ x n, n ≠ 0 → Duration.share (f x) n = f (Duration.share x n)

/-- The same statistics with another form of durations. -/
def map (f : α → β) (stats : Stats α) : Stats β :=
  ⟨stats.tally, f stats.time, stats.fastest.map f, stats.slowest.map f⟩

variable {f : α → β}

/-- Recording does not depend on the form of durations. -/
theorem Carries.record_map (h : Carries f) (stats : Stats α) (duration : α) (cached : Bool) :
    ((stats.map f).record (f duration) cached).2 = (stats.record duration cached).2.map f := by
  cases cached with
  | true => rfl
  | false =>
    have hadd : Duration.add (stats.map f).time (f duration)
        = (Duration.add stats.time duration).map f := h.add _ _
    unfold record
    rw [hadd]
    cases Duration.add stats.time duration with
    | error fault => rfl
    | ok time =>
      have hfastest := better_map h.less duration stats.fastest
      have hslowest : better (fun x y => Duration.less y x) (f duration) (stats.slowest.map f)
          = (better (fun x y => Duration.less y x) duration stats.slowest).map f :=
        better_map (fun x y => h.less y x) duration stats.slowest
      exact congrArg₂ (Stats.mk _ (f time)) hfastest hslowest

theorem Carries.empty_map (h : Carries f) : (empty : Stats β) = (empty : Stats α).map f :=
  congrArg (fun time => Stats.mk Tally.zero time none none) h.zero

/-- The statistics after any calls do not depend on the form of durations. -/
theorem Carries.history_map (h : Carries f) (calls : List (Call α)) :
    history (calls.map (Call.map f)) = (history calls).map f := by
  induction calls using List.reverseRecOn with
  | nil => exact h.empty_map
  | append_singleton calls call ih =>
    rw [List.map_append, List.map_singleton, history_concat, history_concat, ih]
    cases call with
    | reset => exact h.empty_map
    | record duration cached => exact h.record_map _ duration cached

/-- The mean does not depend on the form of durations, as no share is taken among none. -/
theorem Carries.average_map (h : Carries f) (stats : Stats α) :
    (stats.map f).average = f stats.average := by
  unfold average
  show (if stats.tally.scored = 0 then _ else Duration.share (f stats.time) _) = _
  by_cases hnone : stats.tally.scored = 0
  · rw [if_pos hnone, if_pos hnone, h.zero]
  · rw [if_neg hnone, if_neg hnone]
    exact h.share _ _ hnone

/-- Durations with a share among none as a division by zero, which spoils whatever it enters. -/
instance : Duration (Guarded α) where
  zero := .sound Duration.zero
  add
    | .sound x, .sound y => (Duration.add x y).map .sound
    | _, _ => .ok .dividedByZero
  less
    | .sound x, .sound y => Duration.less x y
    | _, _ => false
  share
    | .sound x, n => if n = 0 then .dividedByZero else .sound (Duration.share x n)
    | .dividedByZero, _ => .dividedByZero

/-- Durations keep their sums, order and shares when divisions by zero are guarded. -/
theorem carries_sound : Carries (Guarded.sound : α → Guarded α) :=
  ⟨rfl, fun _ _ => rfl, fun _ _ => rfl, fun _ _ hn => if_neg hn⟩

end Carries

/-! ## After any calls -/

/-- **The statistics sum up exactly the searches that were scored.** After any calls, with exact
durations, every search is counted as scored or as answered from memory. The time is the sum of the
durations of those scored since the last reset, and the shortest and the longest are their least and
their greatest, none if there are none. Their mean lies between these two, or is zero if there are
none; it never divides by zero. -/
theorem history_summarises (calls : List (Call ℚ)) :
    ∃ stats durations, history calls = stats ∧ scored calls = durations ∧
      (∀ duration cached, (stats.record duration cached).1 = .ok ()) ∧
      stats.tally.total = stats.tally.cached + stats.tally.scored ∧
      stats.tally.cached = cachedCount calls ∧ stats.tally.scored = durations.length ∧
      stats.fastest = durations.min? ∧ stats.slowest = durations.max? ∧
      stats.time = durations.sum ∧
      (durations ≠ [] → ∃ fastest slowest, stats.fastest = some fastest ∧
        stats.slowest = some slowest ∧ fastest ≤ stats.average ∧ stats.average ≤ slowest) ∧
      (durations = [] → stats.average = 0) ∧
      (history (calls.map (Call.map Guarded.sound))).average = .sound stats.average := by
  have hguarded : (history (calls.map (Call.map Guarded.sound))).average
      = .sound (history calls).average := by
    rw [carries_sound.history_map, carries_sound.average_map]
  rw [hguarded, history_eq]
  refine ⟨_, _, rfl, rfl, fun duration cached => ?_, Nat.add_comm _ _, rfl, rfl, rfl, rfl, rfl,
    fun hsome => average_between hsome _, fun hnone => ?_, rfl⟩
  · cases cached <;> rfl
  · rw [hnone]
    rfl

/-- A search, a reset, and two searches with one answered from memory between them. -/
def trialCalls : List (Call ℚ) :=
  [.record (1 / 2) false, .reset, .record 2 false, .record 9 true, .record (1 / 3) false]

/-- What was recorded before the reset and what was answered from memory count for nothing. -/
theorem trial_summarises : ∃ stats, history trialCalls = stats ∧ scored trialCalls = [2, 1 / 3] ∧
    stats.tally = ⟨3, 1, 2⟩ ∧ stats.time = 7 / 3 ∧ stats.fastest = some (1 / 3) ∧
    stats.slowest = some 2 ∧ 1 / 3 ≤ stats.average ∧ stats.average ≤ 2 := by
  have hscored : scored trialCalls = [2, 1 / 3] := rfl
  obtain ⟨stats, durations, hstats, hdurations, -, -, -, -, hfastest, hslowest, htime, hmean, -⟩ :=
    history_summarises trialCalls
  rw [hscored] at hdurations
  subst hdurations
  obtain ⟨fastest, slowest, hf, hs, hle, hge⟩ := hmean (List.cons_ne_nil _ _)
  have hleast : ([2, 1 / 3] : List ℚ).min? = some (1 / 3) := by decide +kernel
  have hgreatest : ([2, 1 / 3] : List ℚ).max? = some 2 := by decide +kernel
  have hsum : ([2, 1 / 3] : List ℚ).sum = 7 / 3 := by decide +kernel
  cases Option.some.inj (hf.symm.trans (hfastest.trans hleast))
  cases Option.some.inj (hs.symm.trans (hslowest.trans hgreatest))
  exact ⟨stats, hstats, hscored, hstats ▸ rfl, htime.trans hsum, hf, hs, hle, hge⟩

end Stats

end Launcher
