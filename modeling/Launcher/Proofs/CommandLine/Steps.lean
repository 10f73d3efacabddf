import Launcher.CommandLine.Run
import Launcher.Proofs.Terminal.Halves
import Launcher.Proofs.Terminal.Markup

/-!
# The steps of a command

A command is done step by step in a shell; `Task.on` is what it comes to, and one lemma for each
kind of step says how that goes on. A step that fails ends the command (`Task.on_bind_error`).

Steps that only write are compared by what they write: `Task.Writes` says that a task succeeds
exactly with the texts of which a property holds, as far as these can be written.

> `Task.on_bind_eq_ok_iff` two steps succeed when one does after the other
> `Task.Writes.bind` what two of them write one after the other
> `Task.writes_writeLines`, `Task.writes_print`, `Task.writes_printTable` the steps that write
-/

namespace Launcher.CommandLine

open Launcher.Terminal Launcher.Text

variable {α β : Type} {shell after : Shell} {machine : Machine}

namespace Task

/-- What a part of a command gives in a shell, and the shell after it. -/
def on (task : Task α) (shell : Shell) : Except Ending α × Shell := task.run.run shell

/-- A part of a command after another one. -/
theorem on_bind (task : Task α) (next : α → Task β) (shell : Shell) :
    (task >>= next).on shell
      = (ExceptT.bindCont next (task.on shell).1).run (task.on shell).2 := rfl

/-- The next step follows a step that succeeds. -/
theorem on_bind_ok {task : Task α} {next : α → Task β} {a : α}
    (h : task.on shell = (.ok a, after)) : (task >>= next).on shell = (next a).on after := by
  rw [on_bind, h]
  rfl

/-- Nothing follows a step that fails. -/
theorem on_bind_error {task : Task α} {next : α → Task β} {ending : Ending}
    (h : task.on shell = (.error ending, after)) :
    (task >>= next).on shell = (.error ending, after) := by
  rw [on_bind, h]
  rfl

/-- Two steps succeed when the first does and the second does after it. -/
theorem on_bind_eq_ok_iff {task : Task α} {next : α → Task β} {b : β} :
    (task >>= next).on shell = (.ok b, after) ↔
      ∃ a between, task.on shell = (.ok a, between) ∧ (next a).on between = (.ok b, after) := by
  constructor
  · intro h
    rcases hfirst : task.on shell with ⟨ending | a, between⟩
    · rw [on_bind_error hfirst] at h
      cases h
    · rw [on_bind_ok hfirst] at h
      exact ⟨a, between, rfl, h⟩
  · rintro ⟨a, between, hfirst, hnext⟩
    rw [on_bind_ok hfirst, hnext]

/-! ## Results -/

/-- A result that is there. -/
theorem orFault_on {result : Except Fault α} {a : α} (h : result = .ok a) (shell : Shell) :
    (orFault result).on shell = (.ok a, shell) := by
  rw [h]
  rfl

/-- A result that is not there ends the command. -/
theorem orFault_on_error {result : Except Fault α} {fault : Fault} (h : result = .error fault)
    (shell : Shell) : (orFault result).on shell = (.error (.fault fault), shell) := by
  rw [h]
  rfl

/-- A command goes on exactly with what is no fault. -/
theorem orFault_on_eq_ok_iff {result : Except Fault α} {a : α} :
    (orFault result).on shell = (.ok a, after) ↔ result = .ok a ∧ after = shell := by
  cases result with
  | error fault =>
    rw [orFault_on_error rfl]
    exact iff_of_false nofun nofun
  | ok b =>
    rw [orFault_on rfl, Prod.mk.injEq, Except.ok.injEq, Except.ok.injEq, eq_comm (a := after)]

/-- What is no usage error goes on. -/
theorem orUsage_on {result : Except Fault α} {a : α} (h : result = .ok a) (shell : Shell) :
    (orUsage result).on shell = (.ok a, shell) := by
  rw [h]
  rfl

/-- An action changes the machine and neither output nor warnings. -/
theorem onMachine_on (act : Action α) (shell : Shell) :
    (onMachine act).on shell
      = (.ok (act.on shell.machine).1, { shell with machine := (act.on shell.machine).2 }) := rfl

/-- A result with warnings is there after the warnings have been given. -/
theorem warned_on {result : Warned α} {a : α} (h : result.result = .ok a) (shell : Shell) :
    (warned result).on shell
      = (.ok a, { shell with warnings := shell.warnings ++ result.warnings }) := by
  unfold warned
  have hgive : (modify fun shell : Shell =>
      { shell with warnings := shell.warnings ++ result.warnings } : Task PUnit).on shell
      = (.ok ⟨⟩, { shell with warnings := shell.warnings ++ result.warnings }) := rfl
  rw [on_bind_ok hgive]
  exact orFault_on h _

/-! ## Writing -/

/-- Lines put together, each with its line end. -/
def joinLines (lines : List Text) : Text := lines.flatMap (· ++ "\n")

/-- On a machine the task succeeds exactly with the texts that have the property, as far as these
can be written, and writes such a text and nothing else. -/
def Writes (machine : Machine) (task : Task Unit) (P : Text → Prop) : Prop :=
  ∀ shell after : Shell, shell.machine = machine →
    (task.on shell = (.ok (), after) ↔
      ∃ s : String, P (ofString s) ∧ after = { shell with output := shell.output ++ s })

/-- A text that is put together and can be written is put together from such texts. -/
theorem ofString_eq_append {s : String} {t u : Text} (h : ofString s = t ++ u) :
    ∃ s₁ s₂, t = ofString s₁ ∧ u = ofString s₂ ∧ s = s₁ ++ s₂ := by
  have hhalf : hasHalf (t ++ u) = false := h ▸ hasHalf_ofString s
  rw [hasHalf_append, Bool.or_eq_false_iff] at hhalf
  obtain ⟨s₁, hs₁⟩ := exists_encode_iff.mpr hhalf.1
  obtain ⟨s₂, hs₂⟩ := exists_encode_iff.mpr hhalf.2
  rw [encode_eq_ok_iff] at hs₁ hs₂
  refine ⟨s₁, s₂, hs₁, hs₂, ofString_inj.mp ?_⟩
  rw [h, hs₁, hs₂, ofString_append]

/-- **What two tasks write** one after the other. -/
theorem Writes.bind {first second : Task Unit} {P Q : Text → Prop}
    (h : Writes machine first P) (hnext : Writes machine second Q) :
    Writes machine (first >>= fun _ => second)
      (fun t => ∃ u v, P u ∧ Q v ∧ t = u ++ v) := by
  intro shell after hmachine
  rw [on_bind_eq_ok_iff]
  constructor
  · rintro ⟨⟨⟩, between, hfirst, hsecond⟩
    obtain ⟨s₁, hs₁, rfl⟩ := (h shell between hmachine).mp hfirst
    obtain ⟨s₂, hs₂, rfl⟩ :=
      (hnext { shell with output := shell.output ++ s₁ } after hmachine).mp hsecond
    exact ⟨s₁ ++ s₂, ⟨_, _, hs₁, hs₂, ofString_append _ _⟩, by rw [String.append_assoc]⟩
  · rintro ⟨s, ⟨u, v, hu, hv, hs⟩, rfl⟩
    obtain ⟨s₁, s₂, rfl, rfl, rfl⟩ := ofString_eq_append hs
    refine ⟨⟨⟩, _, (h shell _ hmachine).mpr ⟨s₁, hu, rfl⟩, ?_⟩
    exact (hnext { shell with output := shell.output ++ s₁ } _ hmachine).mpr
      ⟨s₂, hv, by rw [String.append_assoc]⟩

/-- A result that a text is made of comes first. -/
theorem Writes.orFault_bind {result : Except Fault α} {next : α → Task Unit}
    {P : α → Text → Prop} (h : ∀ a, result = .ok a → Writes machine (next a) (P a)) :
    Writes machine (orFault result >>= next) (fun t => ∃ a, result = .ok a ∧ P a t) := by
  intro shell after hmachine
  rw [on_bind_eq_ok_iff]
  constructor
  · rintro ⟨a, between, hresult, hnext⟩
    obtain ⟨ha, rfl⟩ := orFault_on_eq_ok_iff.mp hresult
    obtain ⟨s, hs, rfl⟩ := (h a ha _ after hmachine).mp hnext
    exact ⟨s, ⟨a, ha, hs⟩, rfl⟩
  · rintro ⟨s, ⟨a, ha, hs⟩, rfl⟩
    exact ⟨a, shell, orFault_on ha shell, (h a ha _ _ hmachine).mpr ⟨s, hs, rfl⟩⟩

/-- The machine can be looked at first. -/
theorem Writes.get_bind {next : Shell → Task Unit} {P : Text → Prop}
    (h : ∀ shell : Shell, shell.machine = machine → Writes machine (next shell) P) :
    Writes machine (get >>= next) P := fun shell after hmachine =>
  h shell hmachine shell after hmachine

/-- What is written may be said in other words. -/
theorem Writes.congr {task : Task Unit} {P Q : Text → Prop} (h : Writes machine task P)
    (hiff : ∀ t, P t ↔ Q t) : Writes machine task Q := by
  intro shell after hmachine
  rw [h shell after hmachine]
  exact exists_congr fun s => and_congr_left fun _ => hiff _

/-- Lines are written together. -/
theorem writes_writeLines (lines : List Text) :
    Writes machine (writeLines lines) (· = joinLines lines) := by
  intro shell after _
  unfold writeLines joinLines
  cases hencode : encode (lines.flatMap (· ++ "\n")) with
  | ok s =>
    have hlines := encode_eq_ok_iff.mp hencode
    show (Except.ok (), { shell with output := shell.output ++ s }) = (Except.ok (), after) ↔ _
    rw [hlines, Prod.mk.injEq]
    constructor
    · rintro ⟨-, rfl⟩
      exact ⟨s, rfl, rfl⟩
    · rintro ⟨s', hs', rfl⟩
      rw [ofString_inj.mp hs']
      exact ⟨rfl, rfl⟩
  | error stuck =>
    refine iff_of_false nofun ?_
    rintro ⟨s, hs, -⟩
    rw [← hs, encode_ofString] at hencode
    cases hencode

/-- Lines without halves are written. -/
theorem writeLines_on {lines : List Text} {s : String} (h : joinLines lines = s) (shell : Shell) :
    (writeLines lines).on shell = (.ok (), { shell with output := shell.output ++ s }) :=
  (writes_writeLines lines shell _ rfl).mpr ⟨s, h.symm, rfl⟩

/-- Lines with halves end the command, and none of them is written. -/
theorem writeLines_on_error {lines : List Text} {stuck : Halves}
    (h : encode (joinLines lines) = .error stuck) (shell : Shell) :
    (writeLines lines).on shell = (.error (.fault (.halves stuck)), shell) := by
  unfold joinLines at h
  unfold writeLines
  rw [h]
  rfl

theorem writes_pure : Writes machine (pure ()) (· = []) := by
  intro shell after _
  constructor
  · intro h
    cases h
    exact ⟨"", rfl, by rw [String.append_empty]⟩
  · rintro ⟨s, hs, rfl⟩
    rw [ofString_inj.mp (hs.trans ofString_empty.symm), String.append_empty]
    rfl

/-- What is written for a text with markup: the lines in which it appears on the terminal. -/
def IsPrinted (machine : Machine) (markup t : Text) : Prop :=
  ∃ codes, shown markup = .ok codes ∧ t = joinLines (shownLines machine.terminalWidth codes)

/-- A text with markup is written as its lines. -/
theorem writes_print (markup : Text) :
    Writes machine (print markup) (IsPrinted machine markup) := by
  refine Writes.orFault_bind fun codes _ => Writes.get_bind fun shell hmachine => ?_
  rw [hmachine]
  exact writes_writeLines _

/-- A table is written as its lines. -/
theorem writes_printTable (table : Table) :
    Writes machine (printTable table) (· = joinLines (table.lines machine.terminalWidth)) := by
  refine Writes.get_bind fun shell hmachine => ?_
  rw [hmachine]
  exact writes_writeLines _

/-- Lines can be written if each of them can. -/
theorem hasHalf_joinLines {lines : List Text} :
    hasHalf (joinLines lines) = false ↔ AreWhole lines := by
  unfold joinLines AreWhole
  induction lines with
  | nil => simp
  | cons line lines ih =>
    rw [List.flatMap_cons, hasHalf_append, hasHalf_append, hasHalf_ofString, Bool.or_false,
      Bool.or_eq_false_iff, ih, List.forall_mem_cons]

/-- What appears without halves can be written. -/
theorem exists_isPrinted {markup codes : Text} (h : shown markup = .ok codes)
    (hhalf : hasHalf codes = false) : ∃ s : String, IsPrinted machine markup s := by
  have hlines : AreWhole (shownLines machine.terminalWidth codes) := areWhole_shownLines hhalf
  obtain ⟨s, hs⟩ := exists_encode_iff.mpr (hasHalf_joinLines.mpr hlines)
  exact ⟨s, codes, h, (encode_eq_ok_iff.mp hs).symm⟩

/-- A line is written in every style. -/
theorem exists_isPrinted_line {style line : Text} (hstyle : Switches style) (h : IsLine line) :
    ∃ s : String, IsPrinted machine (styled style line) s :=
  exists_isPrinted (shown_styled_of_plain hstyle h.1 h.2.1) h.2.2

end Task

end Launcher.CommandLine
