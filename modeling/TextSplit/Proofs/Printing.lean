import Mathlib.Data.List.Basic
import Mathlib.Tactic.SplitIfs
import TextSplit.Yaml.Writer

/-!
# What a settings file is written in

Everything that is written is a line feed or a character that prints, because a text that holds any other
character is put between double marks and the character is spelled by its code.

* `Yaml.Printed` — a text of such characters.
* `printed_writePlain`, `printed_writeSingle`, `printed_writeDouble` — the three styles.
* `Yaml.unheld?` — why a value cannot be written, if it cannot; it can be evaluated.
* `Yaml.Outcome` — the two ways in which writing ends.
* **`Yaml.outcome_writeEntries`** — what can be written is written, in such characters; and the first thing
  that cannot be written stops the writer.
-/

namespace TextSplit.Yaml

open TextStyle (isSpecial)

/-- A text of line feeds and characters that print. -/
def Printed (text : List Char) : Prop := ∀ c ∈ text, isSpecial c = false

variable {s t : List Char} {c : Char}

@[simp] lemma printed_nil : Printed [] := fun _ h => absurd h List.not_mem_nil

@[simp] lemma printed_cons : Printed (c :: t) ↔ isSpecial c = false ∧ Printed t :=
  List.forall_mem_cons

@[simp] lemma printed_append : Printed (s ++ t) ↔ Printed s ∧ Printed t := List.forall_mem_append

@[simp] lemma printed_blanks (n : Nat) : Printed (List.replicate n ' ') := by
  intro c hc
  rw [List.eq_of_mem_replicate hc]
  rfl

@[simp] lemma printed_newLine (indent : Nat) : Printed (newLine indent) := by
  simp [newLine, isSpecial]

/-! ## Digits -/

lemma exists_digit {base n : Nat} (hbase : 1 < base) (h : c ∈ Nat.toDigits base n) :
    ∃ d < base, c = d.digitChar := by
  induction n using Nat.strongRecOn with
  | _ n ih =>
      -- the last digit is a remainder, the others are those of the quotient
      by_cases hn : n < base
      · rw [Nat.toDigits_of_lt_base hn, List.mem_singleton] at h
        exact ⟨n, hn, h⟩
      · rw [Nat.toDigits_of_base_le hbase (Nat.le_of_not_lt hn), List.mem_append,
          List.mem_singleton] at h
        rcases h with h | h
        · exact ih _ (Nat.div_lt_self (by omega) hbase) h
        · exact ⟨n % base, Nat.mod_lt n (by omega), h⟩

lemma printed_codeDigits (width n : Nat) : Printed (codeDigits width n) := by
  intro c hc
  have hdigits : ∀ d < 16, isSpecial d.digitChar.toUpper = false := by decide
  obtain ⟨d, hd, rfl⟩ := List.mem_map.1 hc
  -- zeros fill up the width in front of the digits
  rcases List.mem_append.1 hd with hd | hd
  · rw [List.eq_of_mem_replicate hd]
    rfl
  · obtain ⟨k, hk, rfl⟩ := exists_digit (by decide) hd
    exact hdigits k hk

lemma printed_toString (n : Int) : Printed (toString n).toList := by
  have hnat : ∀ n : Nat, Printed n.repr.toList := by
    intro n c hc
    have hdigits : ∀ d < 10, isSpecial d.digitChar = false := by decide
    rw [Nat.repr, String.toList_ofList] at hc
    obtain ⟨d, hd, rfl⟩ := exists_digit (by decide) hc
    exact hdigits d hd
  cases n with
  | ofNat n => exact hnat n
  | negSucc n =>
      show Printed ("-" ++ n.succ.repr).toList
      rw [String.toList_append]
      exact printed_append.2 ⟨by simp [isSpecial], hnat _⟩

/-! ## Texts -/

lemma flatten_runs (p : Char → Nat) (text : List Char) : (runs p text).flatten = text := by
  fun_induction runs p text <;> simp_all

lemma printed_of_mem_runs {p : Char → Nat} (ht : Printed t) : ∀ run ∈ runs p t, Printed run := by
  intro run hrun c hc
  exact ht c (flatten_runs p t ▸ List.mem_flatten_of_mem hrun hc)

lemma printed_writePlain {indent column : Nat} {rs : List (List Char)} (hrs : ∀ run ∈ rs, Printed run) :
    Printed (writePlain indent column rs) := by
  fun_induction writePlain indent column rs with
  | case1 => exact printed_nil
  | case2 column run more hfold ih =>
      exact printed_append.2 ⟨printed_newLine indent, ih (List.forall_mem_cons.1 hrs).2⟩
  | case3 column run more hfold ih =>
      obtain ⟨hrun, hmore⟩ := List.forall_mem_cons.1 hrs
      exact printed_append.2 ⟨hrun, ih hmore⟩

lemma printed_doubleMarks {run : List Char} (hrun : Printed run) : Printed (doubleMarks run) := by
  intro c hc
  obtain ⟨d, hd, hc⟩ := List.mem_flatMap.1 hc
  split_ifs at hc with hmark
  · have hc' : c = '\'' := by simpa using hc
    rw [hc']
    rfl
  · rw [List.mem_singleton.1 hc]
    exact hrun d hd

lemma printed_writeSingle {indent column : Nat} {isFirst : Bool} {rs : List (List Char)}
    (hrs : ∀ run ∈ rs, Printed run) : Printed (writeSingle indent isFirst column rs) := by
  fun_induction writeSingle indent isFirst column rs with
  | case1 => exact printed_nil
  | case2 isFirst column run more hbreak ih =>
      obtain ⟨hrun, hmore⟩ := List.forall_mem_cons.1 hrs
      simp only [List.cons_append, printed_cons, printed_append]
      exact ⟨rfl, ⟨hrun, printed_blanks indent⟩, ih hmore⟩
  | case3 isFirst column run more hbreak hfold ih =>
      exact printed_append.2 ⟨printed_newLine indent, ih (List.forall_mem_cons.1 hrs).2⟩
  | case4 isFirst column run more hbreak hfold written ih =>
      obtain ⟨hrun, hmore⟩ := List.forall_mem_cons.1 hrs
      exact printed_append.2 ⟨printed_doubleMarks hrun, ih hmore⟩

lemma printed_of_escape? {written : List Char} (h : escape? c = some written) : Printed written := by
  unfold escape? at h
  split at h
  · rename_i letter hletter
    have hletters : ∀ entry ∈ escapeLetters, isSpecial entry.2 = false := by decide
    obtain ⟨before, behind, hsplit, -⟩ := List.lookup_eq_some_iff.1 hletter
    obtain rfl := Option.some.inj h
    have hmem : (c, letter) ∈ escapeLetters := hsplit ▸ List.mem_append_right _ List.mem_cons_self
    simpa using ⟨rfl, hletters _ hmem⟩
  · dsimp only at h
    split_ifs at h
    all_goals
      obtain rfl := Option.some.inj h
      simpa using ⟨rfl, rfl, printed_codeDigits _ _⟩

lemma isSpecial_of_escape?_eq_none (h : escape? c = none) : isSpecial c = false := by
  unfold escape? at h
  split at h
  · exact absurd h (by simp)
  · dsimp only at h
    split_ifs at h with hprints
    simp [isSpecial, hprints]

lemma printed_writeDouble {indent column run : Nat} {isFirst : Bool} {text : List Char} :
    Printed (writeDouble indent isFirst column run text) := by
  have hkept : ∀ d, Printed (keepSpace d) := by
    intro d
    unfold keepSpace
    split_ifs <;> simp [isSpecial]
  fun_induction writeDouble indent isFirst column run text with
  | case1 => exact printed_nil
  | case2 isFirst column run c rest mayFold written hwritten column' hfold kept ih =>
      simp only [List.append_assoc, List.cons_append, printed_append, printed_cons]
      exact ⟨printed_of_escape? hwritten, rfl, printed_newLine indent, hkept _, ih⟩
  | case3 isFirst column run c rest mayFold written hwritten column' hfold ih =>
      exact printed_append.2 ⟨printed_of_escape? hwritten, ih⟩
  | case4 isFirst column run c rest mayFold hwritten hfold kept ih =>
      simp only [List.append_assoc, List.cons_append, printed_append, printed_cons]
      exact ⟨rfl, printed_newLine indent, hkept _, isSpecial_of_escape?_eq_none hwritten, ih⟩
  | case5 isFirst column run c rest mayFold hwritten hfold ih =>
      exact printed_cons.2 ⟨isSpecial_of_escape?_eq_none hwritten, ih⟩

/-- The style is chosen so that characters which do not print stand between double marks. -/
lemma printed_of_choose (h : TextStyle.choose t ≠ .double) : Printed t := by
  intro c hc
  by_contra hspecial
  refine h ?_
  have hany : t.any isSpecial = true := List.any_eq_true.2 ⟨c, hc, Bool.of_not_eq_false hspecial⟩
  simp [TextStyle.choose, hany]

lemma printed_writeText (indent column : Nat) (text : List Char) :
    Printed (writeText indent column text) := by
  unfold writeText
  split
  · rename_i hchoose
    have ht : Printed text := printed_of_choose (by simp [hchoose])
    exact printed_cons.2 ⟨rfl, printed_writePlain (printed_of_mem_runs ht)⟩
  · rename_i hchoose
    have ht : Printed text := printed_of_choose (by simp [hchoose])
    simpa using ⟨rfl, rfl, printed_writeSingle (printed_of_mem_runs ht), rfl⟩
  · simpa using ⟨rfl, rfl, printed_writeDouble, rfl⟩

/-! ## Values -/

mutual

/-- Why a settings file cannot hold a value, if it cannot: the first part of it that has no spelling. -/
def unheld? [Machine] : Value → Option Failure
  | .null | .bool _ | .text _ => none
  | .int n => (Value.int n).unspelled? Machine.digits 0
  | .dict entries => unheldAll? entries
  | _ => some .unwritable

/-- Why it cannot hold one of several entries. -/
def unheldAll? [Machine] : List (Value × Value) → Option Failure
  | [] => none
  | (_, v) :: rest => (unheld? v).or (unheldAll? rest)

end

mutual

/-- Whether all names inside a value print.  They are written as they stand. -/
def namesPrint : Value → Bool
  | .dict entries => allNamesPrint entries
  | _ => true

/-- Whether the names of entries print, and all names inside them. -/
def allNamesPrint : List (Value × Value) → Bool
  | [] => true
  | (.text name, v) :: rest => !name.toList.any isSpecial && namesPrint v && allNamesPrint rest
  | _ :: _ => false

end

lemma allNamesPrint_cons_iff {entry : Value × Value} {entries : List (Value × Value)} :
    allNamesPrint (entry :: entries) = true
      ↔ (∃ name, entry.1 = .text name ∧ Printed name.toList) ∧ namesPrint entry.2 = true
        ∧ allNamesPrint entries = true := by
  obtain ⟨k, v⟩ := entry
  cases k with
  | text name => simp [allNamesPrint, Printed, and_assoc]
  | _ => simp [allNamesPrint]

lemma allNamesPrint_append {xs ys : List (Value × Value)} (hx : allNamesPrint xs = true)
    (hy : allNamesPrint ys = true) : allNamesPrint (xs ++ ys) = true := by
  induction xs with
  | nil => exact hy
  | cons entry xs ih =>
      obtain ⟨hname, hv, hxs⟩ := allNamesPrint_cons_iff.1 hx
      exact allNamesPrint_cons_iff.2 ⟨hname, hv, ih hxs⟩

lemma unheldAll?_append [Machine] (xs ys : List (Value × Value)) :
    unheldAll? (xs ++ ys) = (unheldAll? xs).or (unheldAll? ys) := by
  induction xs with
  | nil => rfl
  | cons entry xs ih =>
      change (unheld? entry.2).or (unheldAll? (xs ++ ys)) = ((unheld? entry.2).or (unheldAll? xs)).or _
      rw [ih, Option.or_assoc]

/-- How writing ends: with a text of characters that print, or with the failure that stopped it. -/
inductive Outcome : Option Failure → Except TextSplit.Fault (List Char) → Prop
  | written {text : List Char} (printed : Printed text) : Outcome none (.ok text)
  | stopped (failure : Failure) : Outcome (some failure) (TextSplit.Fault.fail failure)

mutual

lemma outcome_writeValue [Machine] (indent column : Nat) {v : Value} (h : namesPrint v = true) :
    Outcome (unheld? v) (writeValue indent column v) := by
  cases v with
  | null => exact .written (by simp [isSpecial])
  | bool b =>
      refine .written ?_
      cases b <;> simp [isSpecial]
  | int n =>
      rw [unheld?, writeValue]
      cases (Value.int n).unspelled? Machine.digits 0 with
      | some failure => exact .stopped failure
      | none => exact .written (by simpa [isSpecial] using printed_toString n)
  | text s => exact .written (by simpa [isSpecial] using printed_writeText (indent + 2) column s.toList)
  | dict entries =>
      have hentries := outcome_writeEntries (indent + 2) h
      rw [unheld?, writeValue]
      split_ifs with hempty
      · obtain rfl := List.isEmpty_iff.1 hempty
        exact .written (by simp [isSpecial])
      · generalize writeEntries (indent + 2) entries = written, unheldAll? entries = o at hentries ⊢
        cases hentries with
        | written printed => exact .written (printed_cons.2 ⟨rfl, printed⟩)
        | stopped failure => exact .stopped failure
  | _ => exact .stopped .unwritable

/-- **What can be written is written**, in characters that print.  Otherwise the first thing that cannot be
written stops the writer. -/
lemma outcome_writeEntries [Machine] (indent : Nat) {entries : List (Value × Value)}
    (h : allNamesPrint entries = true) : Outcome (unheldAll? entries) (writeEntries indent entries) := by
  cases entries with
  | nil => exact .written printed_nil
  | cons entry rest =>
      obtain ⟨k, v⟩ := entry
      obtain ⟨⟨name, rfl, hname⟩, hv, hrest⟩ := allNamesPrint_cons_iff.1 h
      have hvalue := outcome_writeValue indent (indent + name.toList.length + 1) hv
      have hmore := outcome_writeEntries indent hrest
      rw [unheldAll?, writeEntries, Value.shown]
      generalize writeValue indent _ v = written, unheld? v = o at hvalue ⊢
      generalize writeEntries indent rest = more, unheldAll? rest = o' at hmore ⊢
      cases hvalue with
      | stopped failure => exact .stopped failure
      | written printed =>
          cases hmore with
          | stopped failure => exact .stopped failure
          | written printed' => exact .written (by simpa [printed, printed'] using ⟨hname, rfl⟩)

end

end TextSplit.Yaml
