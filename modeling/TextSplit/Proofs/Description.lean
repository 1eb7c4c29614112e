import TextSplit.Proofs.PlainData
import TextSplit.Proofs.WrittenForm
import Mathlib.Tactic.MkIffOfInductiveProp

/-!
# Which mappings describe splitters

A mapping that describes a splitter is read in several places: options are split off, the kind of
delimiter decides which field has to be there, one kind minds about further names and the others do not,
and every value is checked by what it is handed to.  This file says what the mapping has to hold, field by
field and without reading it, and that the reader accepts that and nothing else.

* `Nought`, `eqv_false_iff` — the plain values that equal the truth value for no.
* `CharClass.Describes`, `Pattern.Describes`, `Delimiter.Describes`, `Splitter.Trims`, `Splitter.Limits` —
  what the fields of a mapping say about a class, a pattern, a delimiter, a trimmer and a limit.
* `CharClass.ofPlain_iff`, `Pattern.ofValues_iff`, `Delimiter.ofPlain_iff`, `withTrim_iff`,
  `withLimit_iff` — one reader each.
* `Splitter.Describes`, `Splitter.ofPlain_iff` — a mapping and the splitter that it describes.
* **`Splitter.ofPlain_iff_describes`** — what is read is what is described, and when anything is.
-/

namespace TextSplit

/-- The numbers that equal the integer zero are the two zeros. -/
lemma Binary64.eqInt_zero (x : Binary64) : x.eqInt 0 = x.isZero := by
  cases x with
  | finite negative m e =>
      have hsigned : (if negative then -(m : Int) else m) = 0 ↔ m = 0 := by
        cases negative <;> simp
      have hpow : ((Nat.pow 2 e.toNat : Nat) : Int) ≠ 0 :=
        Int.natCast_ne_zero.2 (Nat.pos_iff_ne_zero.1 (Nat.two_pow_pos _))
      rw [Bool.eq_iff_iff, eqInt, isZero]
      by_cases he : 0 ≤ e
      · simp only [if_pos he, beq_iff_eq, Int.mul_eq_zero, or_iff_left hpow, hsigned]
      · simp only [if_neg he, beq_iff_eq, Int.zero_mul, hsigned]
  | _ => rfl

namespace Value

variable {names out : List String} {xs : List (Value × Value)} {v : Value}

/-- What is left has some names exactly if the whole has these names or those that are taken out. -/
lemma keyed_without_iff : Keyed names (without xs out) ↔ Keyed (names ++ out) xs := by
  simp only [Keyed, without, List.mem_filter, List.mem_append]
  refine forall_congr' fun entry => ?_
  rcases hkey : entry.1 with _ | _ | _ | _ | name
  case text =>
      by_cases hout : name ∈ out <;> simp [hout]
  all_goals simp

/-- Leaving out repetitions leaves something. -/
lemma distinct_eq_nil_iff {values : List Value} : distinct values = [] ↔ values = [] := by
  have hkept : ∀ values kept : List Value, values.foldl
      (fun kept v => if kept.any (·.eqv v) then kept else kept ++ [v]) kept = [] → kept = [] := by
    intro values
    induction values with
    | nil => exact fun _ h => h
    | cons v rest ih =>
        intro kept h
        rw [List.foldl_cons] at h
        split_ifs at h
        · exact ih _ h
        · exact absurd (ih _ h) (by simp)
  cases values with
  | nil => exact Iff.rfl
  | cons v rest =>
      exact ⟨fun h => absurd (hkept rest [v] h) (List.cons_ne_nil _ _), fun h => absurd h (by simp)⟩

/-- The plain values that equal the truth value for no: itself and the zeros. -/
inductive Nought : Value → Prop
  | bool : Nought (.bool false)
  | int : Nought (.int 0)
  | real {x : Binary64} (zero : x.isZero = true) : Nought (.real x)

lemma eqv_false_iff (hplain : v.isPlain = true) : v.eqv (.bool false) = true ↔ v.Nought := by
  constructor
  · intro h
    cases v with
    | bool b =>
        cases b with
        | false => exact .bool
        | true => exact absurd h (by simp [eqv, asInt?])
    | int n =>
        have hn : n = 0 := by simpa [eqv, asInt?] using h
        exact hn ▸ .int
    | real x => exact .real (by simpa [eqv, asInt?, Binary64.eqInt_zero] using h)
    | bytes bs => exact absurd hplain (by simp [isPlain])
    | tuple items => exact absurd hplain (by simp [isPlain])
    | thing t => exact absurd hplain (by simp [isPlain])
    | _ => exact absurd h (by simp [eqv, asInt?])
  · rintro (_ | _ | zero)
    · rfl
    · rfl
    · simpa [eqv, asInt?, Binary64.eqInt_zero] using zero

end Value

/-! ## Classes -/

namespace CharClass

variable {others out : List String} {entries : List (Value × Value)} {k : CharClass}

/-- **What the fields of a mapping say about a class.**  No name occurs but those of its fields, and some
others that belong to someone else; the characters, if any are given, are given as a text; the blanks
belong to the class if their field counts as true. -/
@[mk_iff]
structure Describes (others : List String) (entries : List (Value × Value)) (k : CharClass) : Prop where
  names : Value.Keyed (fieldNames ++ others) entries
  members : (Value.get? entries "any_of" = none ∧ k.members = .ofChars [])
    ∨ ∃ chars, Value.get? entries "any_of" = some (.text chars) ∧ k.members = .ofChars chars.toList
  blank : k.blank = ((Value.get? entries "whitespace").getD (.bool false)).isTruthy
  tests : k.tests = []

/-- The names of others can be taken out before. -/
lemma describes_without_iff (hout : ∀ name ∈ fieldNames, name ∉ out) :
    Describes others (Value.without entries out) k ↔ Describes (others ++ out) entries k := by
  have hblank := Value.get?_without (hout "whitespace" (by decide)) entries
  have hchars := Value.get?_without (hout "any_of" (by decide)) entries
  constructor
  · rintro ⟨hnames, hmembers, hk, htests⟩
    rw [Value.keyed_without_iff, List.append_assoc] at hnames
    exact ⟨hnames, hchars ▸ hmembers, hblank ▸ hk, htests⟩
  · rintro ⟨hnames, hmembers, hk, htests⟩
    rw [← List.append_assoc, ← Value.keyed_without_iff] at hnames
    exact ⟨hnames, hchars ▸ hmembers, hblank ▸ hk, htests⟩

/-- Fields of the right names are read as what they say. -/
lemma ofFields_iff (hnames : Value.Keyed (fieldNames ++ others) entries) :
    ofFields entries = .ok k ↔ Describes others entries k := by
  obtain ⟨members, blank, tests⟩ := k
  rw [describes_iff, and_iff_right hnames, ofFields]
  rcases Value.get? entries "any_of" with _ | v
  · simp [eq_comm]
  · cases v <;> simp [Fault.refuse, eq_comm]

/-- A mapping with another name is refused. -/
lemma keyed_of_ofPlain (h : ofPlain (.dict entries) = .ok k) : Value.Keyed fieldNames entries := by
  unfold ofPlain at h
  simp only [Value.items?] at h
  split_ifs at h with hhash hunknown
  · exact absurd h (by simp [Fault.fail])
  · rw [List.isEmpty_iff, Value.distinct_eq_nil_iff, List.filter_eq_nil_iff] at hunknown
    intro entry hentry
    have hknown := hunknown entry.1 (List.mem_map_of_mem hentry)
    split at hknown
    · rename_i name hkey
      exact ⟨name, by simpa using hknown, hkey⟩
    · exact absurd rfl hknown
  · split at h <;> exact absurd h (by simp [Fault.refuse, Fault.fail])

/-- **A class is read from what describes it**, and from nothing else. -/
theorem ofPlain_iff : ofPlain (.dict entries) = .ok k ↔ Describes [] entries k := by
  have hread : Value.Keyed fieldNames entries →
      (ofPlain (.dict entries) = .ok k ↔ Describes [] entries k) := fun hnames => by
    rw [ofPlain_of_keyed hnames]
    exact ofFields_iff (by rwa [List.append_nil])
  refine ⟨fun h => (hread (keyed_of_ofPlain h)).1 h, fun h => (hread ?_).2 h⟩
  have hnames := h.names
  rwa [List.append_nil] at hnames

end CharClass

/-! ## Patterns -/

namespace Pattern

/-- **What a text and flags say about a pattern.**  The text reads as the pattern under the integer that the
flags count as.  If they count as none, they are a number with a fraction, which is whole, and the pattern is
remembered under it. -/
inductive Describes [PatternReader] (source : String) (flags : Value) (p : Pattern) : Prop
  | counted {n : Int} (count : flags.asInt? = some n)
      (reads : PatternReader.compile source.toList n = .ok p)
  | remembered {x : Binary64} {n : Int} (number : flags = .real x) (whole : x.whole? = some n)
      (remembers : PatternReader.remembers source.toList n = true)
      (reads : PatternReader.compile source.toList n = .ok p)

lemma Describes.readable [PatternReader] {source : String} {flags : Value} {p : Pattern}
    (h : p.Describes source flags) : p.Readable := by
  cases h with
  | counted count reads => exact ⟨_, _, reads⟩
  | remembered number whole remembers reads => exact ⟨_, _, reads⟩

lemma remembered_iff [PatternReader] {chars : List Char} {flags : Value} {p : Pattern} :
    ofValues.remembered flags chars = .ok p ↔ ∃ x n, flags = .real x ∧ x.whole? = some n
      ∧ PatternReader.remembers chars n = true ∧ PatternReader.compile chars n = .ok p := by
  unfold ofValues.remembered
  constructor
  · intro h
    split at h
    · rename_i x
      split at h
      · rename_i q hfound
        obtain ⟨n, hn, hpair⟩ := Option.map_eq_some_iff.1 hfound
        obtain ⟨hremembers, hreads⟩ := Prod.mk.inj hpair
        exact ⟨x, n, rfl, hn, hremembers, hreads.trans (congrArg _ (Except.ok.inj h))⟩
      · exact absurd h (by simp [TextSplit.Fault.fail])
    · exact absurd h (by simp [TextSplit.Fault.fail])
  · rintro ⟨x, n, rfl, hn, hremembers, hreads⟩
    simp only [hn, Option.map_some, hremembers, hreads]

/-- **A pattern is read from what describes it**, and from nothing else. -/
theorem ofValues_iff [PatternReader] {source flags : Value} {p : Pattern} (hsource : source.isPlain = true)
    (hflags : flags.isPlain = true) :
    ofValues source flags = .ok p ↔ ∃ s, source = .text s ∧ p.Describes s flags := by
  constructor
  · intro h
    cases source with
    | text s =>
        refine ⟨s, rfl, ?_⟩
        cases hcount : flags.asInt? with
        | none =>
            unfold ofValues at h
            by_cases hhash : (!(Value.text s).isHashable || !flags.isHashable) = true
            · rw [if_pos hhash] at h
              exact absurd h (by simp [TextSplit.Fault.fail])
            · rw [if_neg hhash] at h
              simp only [hcount] at h
              obtain ⟨x, n, hx, hn, hremembers, hreads⟩ := remembered_iff.1 h
              exact .remembered hx hn hremembers hreads
        | some n =>
            rw [ofValues_counted s hcount] at h
            cases hread : PatternReader.compile s.toList n with
            | ok q =>
                rw [hread] at h
                exact .counted hcount (hread.trans (congrArg _ (Except.ok.inj h)))
            | error fault =>
                rw [hread] at h
                exact absurd h (by simp [Except.mapError])
    | thing t => exact absurd hsource (by simp [Value.isPlain])
    | bytes bs => exact absurd hsource (by simp [Value.isPlain])
    | _ =>
        unfold ofValues at h
        split_ifs at h <;> exact absurd h (by simp [TextSplit.Fault.fail])
  · rintro ⟨s, rfl, hdescribes⟩
    cases hdescribes with
    | counted count reads =>
        exact ofValues_text count reads
    | remembered number whole remembers reads =>
        subst number
        exact remembered_iff.2 ⟨_, _, rfl, whole, remembers, reads⟩

end Pattern

/-! ## Delimiters -/

namespace Delimiter

variable {others out : List String} {entries : List (Value × Value)} {d : Delimiter} {v : Value}

/-- **What the fields of a mapping say about a delimiter.**  The kind is one of five, and each needs one
field: a text of one character, a text that is not empty, a text that reads as a pattern under the flags and
does not match the empty text, or an integer that is at least one.  Other names do not matter, except to
a class, which takes its own fields, some that belong to someone else, and no more. -/
inductive Describes [PatternReader] (others : List String) (entries : List (Value × Value)) :
    Delimiter → Prop
  | char {c : Char} (kind : Value.get? entries "type" = some (.text "char"))
      (field : Value.get? entries "separator" = some (.text c.toString)) :
      Describes others entries (.char c)
  | literal {s : String} (hasChar : s.toList ≠ [])
      (kind : Value.get? entries "type" = some (.text "string"))
      (field : Value.get? entries "separator" = some (.text s)) :
      Describes others entries (.literal s.toList hasChar)
  | pattern {source : String} {p : Pattern} (cuts : p.matchesEmpty = false)
      (kind : Value.get? entries "type" = some (.text "pattern"))
      (field : Value.get? entries "pattern" = some (.text source))
      (reads : p.Describes source ((Value.get? entries "flags").getD (.int 0))) :
      Describes others entries (.pattern p cuts)
  | chunk {n : Nat} (positive : 0 < n)
      (kind : Value.get? entries "type" = some (.text "fixed_length"))
      (field : Value.get? entries "length" = some (.int n)) :
      Describes others entries (.chunk n positive)
  | charClass {k : CharClass} (kind : Value.get? entries "type" = some (.text "char_class"))
      (fields : CharClass.Describes ("type" :: others) entries k) :
      Describes others entries (.charClass k)

/-- Mappings with the same fields, and the same classes if they describe a class, describe the same
delimiters. -/
lemma Describes.congr [PatternReader] {others' : List String} {entries' : List (Value × Value)}
    (hget : ∀ name ∈ fieldNames, Value.get? entries name = Value.get? entries' name)
    (hclass : ∀ {k}, CharClass.Describes ("type" :: others) entries k →
      CharClass.Describes ("type" :: others') entries' k)
    (h : Describes others entries d) : Describes others' entries' d := by
  have htype := hget "type" (by decide)
  have hseparator := hget "separator" (by decide)
  cases h with
  | char kind field => exact .char (htype ▸ kind) (hseparator ▸ field)
  | literal hasChar kind field => exact .literal hasChar (htype ▸ kind) (hseparator ▸ field)
  | pattern cuts kind field reads =>
      exact .pattern cuts (htype ▸ kind) (hget "pattern" (by decide) ▸ field)
        (hget "flags" (by decide) ▸ reads)
  | chunk positive kind field =>
      exact .chunk positive (htype ▸ kind) (hget "length" (by decide) ▸ field)
  | charClass kind fields => exact .charClass (htype ▸ kind) (hclass fields)

/-- The names of others can be taken out before. -/
lemma describes_without_iff [PatternReader] (hout : ∀ name ∈ fieldNames, name ∉ out) :
    Describes others (Value.without entries out) d ↔ Describes (others ++ out) entries d := by
  have hget : ∀ name ∈ fieldNames,
      Value.get? (Value.without entries out) name = Value.get? entries name :=
    fun name hname => Value.get?_without (hout name hname) entries
  have hclass : ∀ {k}, CharClass.Describes ("type" :: others) (Value.without entries out) k
      ↔ CharClass.Describes ("type" :: (others ++ out)) entries k :=
    CharClass.describes_without_iff fun name hname => hout name (List.mem_append_right _ hname)
  exact ⟨.congr hget hclass.1, .congr (fun name hname => (hget name hname).symm) hclass.2⟩

lemma required_iff {field : String} :
    required entries field = .ok v ↔ Value.get? entries field = some v := by
  rw [required]
  cases Value.get? entries field <;> simp [Fault.refuse]

lemma ofChar_iff : ofChar v = .ok d ↔ ∃ c : Char, v = .text c.toString ∧ d = .char c := by
  constructor
  · intro h
    unfold ofChar at h
    split at h
    · rename_i c hchars
      cases v with
      | text s =>
          have hs : s = c.toString := by
            rw [← String.ofList_toList (s := s), Option.some.inj hchars]
            rfl
          exact ⟨c, by rw [hs], (Except.ok.inj h).symm⟩
      | _ => exact absurd hchars (by simp [Value.text?])
    · exact absurd h (by simp [Fault.refuse])
  · rintro ⟨c, rfl, rfl⟩
    simp [ofChar, Value.text?]

lemma ofLiteral_iff :
    ofLiteral v = .ok d ↔ ∃ (s : String) (h : s.toList ≠ []), v = .text s ∧ d = .literal s.toList h := by
  constructor
  · intro h
    unfold ofLiteral at h
    split at h
    · rename_i c rest hchars
      cases v with
      | text s =>
          have hs : s.toList = c :: rest := Option.some.inj hchars
          refine ⟨s, by simp [hs], rfl, ?_⟩
          simp only [hs]
          exact (Except.ok.inj h).symm
      | _ => exact absurd hchars (by simp [Value.text?])
    · exact absurd h (by simp [Fault.refuse])
  · rintro ⟨s, hasChar, rfl, rfl⟩
    obtain ⟨c, rest, hs⟩ := List.exists_cons_of_ne_nil hasChar
    simp [ofLiteral, Value.text?, hs]

lemma compiled_iff [PatternReader] {source flags : Value} :
    compiled source flags = .ok d
      ↔ ∃ (p : Pattern) (cuts : p.matchesEmpty = false),
        Pattern.ofValues source flags = .ok p ∧ d = .pattern p cuts := by
  rw [compiled]
  rcases Pattern.ofValues source flags with fault | p
  · simp
  · simp only [ofCompiled]
    split_ifs with hcuts
    · simp only [Except.ok.injEq, exists_and_left, exists_eq_left', hcuts, exists_true_left]
      exact eq_comm
    · simp [hcuts, Fault.refuse]

lemma ofLength_iff :
    ofLength v = .ok d ↔ ∃ (n : Nat) (h : 0 < n), v = .int n ∧ d = .chunk n h := by
  constructor
  · intro h
    unfold ofLength at h
    split at h
    · split_ifs at h with hpos
      · exact ⟨_, hpos, by rw [Int.toNat_of_nonneg (by omega)], (Except.ok.inj h).symm⟩
      · exact absurd h (by simp [Fault.refuse])
    · exact absurd h (by simp [Fault.refuse])
  · rintro ⟨n, hpos, rfl, rfl⟩
    simp [ofLength, hpos]

/-- The kind is the text of its field, if that is the name of a kind. -/
lemma kindOf_iff {kind : String} {rest : List (Value × Value)} :
    kindOf (.dict entries) = .ok (kind, rest)
      ↔ Value.get? entries "type" = some (.text kind) ∧ kind ∈ Cause.delimiterTypes ∧ rest = entries := by
  constructor
  · intro h
    rw [kindOf] at h
    cases hkind : Value.get? entries "type" with
    | none =>
        rw [hkind] at h
        exact absurd h (by simp [Fault.refuse])
    | some v =>
        simp only [hkind] at h
        split_ifs at h with hhash
        · exact absurd h (by simp [Fault.fail])
        · cases v with
          | text name =>
              simp only at h
              split_ifs at h with hname
              · obtain ⟨rfl, rfl⟩ := Prod.mk.inj (Except.ok.inj h)
                exact ⟨rfl, List.contains_iff_mem.1 hname, rfl⟩
              · exact absurd h (by simp [Fault.refuse])
          | _ => exact absurd h (by simp [Fault.refuse])
  · rintro ⟨hkind, hmem, rfl⟩
    simp only [kindOf, hkind, Value.isHashable, List.contains_iff_mem.2 hmem]
    rfl

/-- **A delimiter is read from what describes it**, and from nothing else. -/
theorem ofPlain_iff [PatternReader] (hplain : Value.entriesPlain entries = true) :
    ofPlain (.dict entries) = .ok d ↔ d.Describes [] entries := by
  have hflags : ((Value.get? entries "flags").getD (.int 0)).isPlain = true := by
    cases hget : Value.get? entries "flags" with
    | none => rfl
    | some flags => exact Value.isPlain_of_get? hplain hget
  constructor
  · intro h
    obtain ⟨⟨kind, rest⟩, hkind, hread⟩ := bind_eq_ok_iff.1 h
    obtain ⟨htype, hmem, rfl⟩ := kindOf_iff.1 hkind
    change ofEntries kind rest = .ok d at hread
    -- the kinds stand in the order of their names
    simp only [Cause.delimiterTypes, List.mem_cons, List.not_mem_nil, or_false] at hmem
    rcases hmem with rfl | rfl | rfl | rfl | rfl
    · obtain ⟨v, hfield, h⟩ := bind_eq_ok_iff.1 hread
      obtain ⟨c, rfl, rfl⟩ := ofChar_iff.1 h
      exact .char htype (required_iff.1 hfield)
    · obtain ⟨k, hk, h⟩ := bind_eq_ok_iff.1 hread
      obtain rfl := Except.ok.inj h
      exact .charClass htype
        ((CharClass.describes_without_iff (by decide)).1 (CharClass.ofPlain_iff.1 hk))
    · obtain ⟨v, hfield, h⟩ := bind_eq_ok_iff.1 hread
      obtain ⟨n, hpos, rfl, rfl⟩ := ofLength_iff.1 h
      exact .chunk hpos htype (required_iff.1 hfield)
    · obtain ⟨source, hfield, h⟩ := bind_eq_ok_iff.1 hread
      obtain ⟨p, cuts, hvalues, rfl⟩ := compiled_iff.1 h
      have hsource := Value.isPlain_of_get? hplain (required_iff.1 hfield)
      obtain ⟨s, rfl, hreads⟩ := (Pattern.ofValues_iff hsource hflags).1 hvalues
      exact .pattern cuts htype (required_iff.1 hfield) hreads
    · obtain ⟨v, hfield, h⟩ := bind_eq_ok_iff.1 hread
      obtain ⟨s, hasChar, rfl, rfl⟩ := ofLiteral_iff.1 h
      exact .literal hasChar htype (required_iff.1 hfield)
  · have hread : ∀ {kind}, Value.get? entries "type" = some (.text kind) → kind ∈ Cause.delimiterTypes →
        ofEntries kind entries = .ok d → ofPlain (.dict entries) = .ok d := fun htype hmem h =>
      bind_eq_ok_iff.2 ⟨(_, entries), kindOf_iff.2 ⟨htype, hmem, rfl⟩, h⟩
    intro h
    cases h with
    | char kind field =>
        exact hread kind (by decide)
          (bind_eq_ok_iff.2 ⟨_, required_iff.2 field, ofChar_iff.2 ⟨_, rfl, rfl⟩⟩)
    | literal hasChar kind field =>
        exact hread kind (by decide)
          (bind_eq_ok_iff.2 ⟨_, required_iff.2 field, ofLiteral_iff.2 ⟨_, hasChar, rfl, rfl⟩⟩)
    | pattern cuts kind field reads =>
        have hvalues := (Pattern.ofValues_iff rfl hflags).2 ⟨_, rfl, reads⟩
        exact hread kind (by decide)
          (bind_eq_ok_iff.2 ⟨_, required_iff.2 field, compiled_iff.2 ⟨_, cuts, hvalues, rfl⟩⟩)
    | chunk positive kind field =>
        exact hread kind (by decide)
          (bind_eq_ok_iff.2 ⟨_, required_iff.2 field, ofLength_iff.2 ⟨_, positive, rfl, rfl⟩⟩)
    | charClass kind fields =>
        refine hread kind (by decide) (bind_eq_ok_iff.2 ⟨_, CharClass.ofPlain_iff.2 ?_, rfl⟩)
        exact (CharClass.describes_without_iff (by decide)).2 fields

end Delimiter

/-! ## Splitters -/

namespace Splitter

variable {entries : List (Value × Value)} {s t : Splitter}

/-- **What a field says about the trimmer.**  Nothing is trimmed if the field is missing, holds nothing, or
equals the truth value for no; the blanks are trimmed if it is the truth value for yes or their name; and
a mapping describes a class. -/
inductive Trims : Option Value → Option CharClass → Prop
  | missing : Trims none none
  | nothing : Trims (some .null) none
  | no {v : Value} (nought : v.Nought) : Trims (some v) none
  | yes : Trims (some (.bool true)) (some .blanks)
  | blanks : Trims (some (.text "whitespace")) (some .blanks)
  | charClass {fields : List (Value × Value)} {k : CharClass} (describes : k.Describes [] fields) :
      Trims (some (.dict fields)) (some k)

/-- **What a field says about the limit.**  There is none if the field is missing or holds nothing, and
otherwise it is an integer that is at least one. -/
inductive Limits : Option Value → Option Limit → Prop
  | missing : Limits none none
  | nothing : Limits (some .null) none
  | number {n : Nat} (positive : 0 < n) : Limits (some (.int n)) (some ⟨n, positive⟩)

/-- No trimmer is set for a value that equals the truth value for no. -/
lemma withTrim_of_nought {v : Value} (h : v.Nought) (s : Splitter) : s.withTrim v = .ok s := by
  cases h with
  | bool => rfl
  | int => rfl
  | real zero =>
      have heqv := (Value.eqv_false_iff rfl).2 (.real zero)
      rw [withTrim, if_pos heqv]
      all_goals simp

/-- The trimmer is what its field says. -/
lemma withTrim_iff {field : Option Value} (hplain : ∀ v ∈ field, v.isPlain = true)
    (hs : s.trimmer = none) :
    s.withTrim (field.getD .null) = .ok t ↔ ∃ trimmer, Trims field trimmer ∧ t = { s with trimmer } := by
  have hkeep : { s with trimmer := none } = s := by rw [← hs]
  constructor
  · intro h
    cases field with
    | none => exact ⟨none, .missing, by rw [hkeep, ← Except.ok.inj h]⟩
    | some v =>
        change s.withTrim v = .ok t at h
        unfold withTrim at h
        split at h
        · exact ⟨_, .yes, (Except.ok.inj h).symm⟩
        · exact ⟨_, .blanks, (Except.ok.inj h).symm⟩
        · obtain ⟨k, hk, rfl⟩ := map_eq_ok_iff.1 h
          exact ⟨_, .charClass (CharClass.ofPlain_iff.1 hk), rfl⟩
        · exact ⟨none, .nothing, by rw [hkeep, ← Except.ok.inj h]⟩
        · split_ifs at h with heqv
          · refine ⟨none, .no ((Value.eqv_false_iff (hplain _ rfl)).1 heqv), ?_⟩
            rw [hkeep, ← Except.ok.inj h]
          · exact absurd h (by simp [Fault.refuse])
  · rintro ⟨trimmer, htrims, rfl⟩
    cases htrims with
    | missing => exact congrArg Except.ok hkeep.symm
    | nothing => exact congrArg Except.ok hkeep.symm
    | no nought => exact (withTrim_of_nought nought s).trans (congrArg Except.ok hkeep.symm)
    | yes => rfl
    | blanks => rfl
    | charClass describes => exact map_eq_ok_iff.2 ⟨_, CharClass.ofPlain_iff.2 describes, rfl⟩

lemma limitOf_iff {v : Value} {limit : Limit} :
    limitOf v = .ok limit ↔ v = .int limit.1 := by
  constructor
  · intro h
    unfold limitOf at h
    split at h
    · split_ifs at h with hpos
      · obtain rfl := Except.ok.inj h
        simp only [Value.int.injEq]
        omega
      · exact absurd h (by simp [Fault.refuse])
    · exact absurd h (by simp [Fault.refuse])
  · rintro rfl
    simp [limitOf, limit.2]

/-- The limit is what its field says. -/
lemma withLimit_iff {field : Option Value} (hs : s.limit = none) :
    s.withLimit (field.getD .null) = .ok t ↔ ∃ limit, Limits field limit ∧ t = { s with limit } := by
  have hkeep : { s with limit := none } = s := by rw [← hs]
  constructor
  · intro h
    cases field with
    | none => exact ⟨none, .missing, by rw [hkeep, ← Except.ok.inj h]⟩
    | some v =>
        change s.withLimit v = .ok t at h
        unfold withLimit at h
        split at h
        · exact ⟨none, .nothing, by rw [hkeep, ← Except.ok.inj h]⟩
        · obtain ⟨limit, hlimit, rfl⟩ := map_eq_ok_iff.1 h
          exact ⟨some limit, limitOf_iff.1 hlimit ▸ .number limit.2, rfl⟩
  · rintro ⟨limit, hlimits, rfl⟩
    cases hlimits with
    | missing => exact congrArg Except.ok hkeep.symm
    | nothing => exact congrArg Except.ok hkeep.symm
    | number positive => exact map_eq_ok_iff.2 ⟨_, limitOf_iff.2 rfl, rfl⟩

/-- The options are what their fields say. -/
lemma ofOptions_iff {d : Delimiter} (hplain : ∀ v ∈ Value.get? entries "trim", v.isPlain = true) :
    ofOptions d entries = .ok s
      ↔ s.delimiter = d ∧ Trims (Value.get? entries "trim") s.trimmer
        ∧ s.omitEmpty = ((Value.get? entries "omit_empty").getD (.bool false)).isTruthy
        ∧ Limits (Value.get? entries "limit") s.limit := by
  rw [ofOptions, bind_eq_ok_iff]
  generalize ((Value.get? entries "omit_empty").getD (.bool false)).isTruthy = omitEmpty
  have hchosen : ∀ trimmer, (if omitEmpty = true then Splitter.droppingEmpty ⟨d, trimmer, false, none⟩
      else ⟨d, trimmer, false, none⟩) = ⟨d, trimmer, omitEmpty, none⟩ := fun trimmer => by
    cases omitEmpty <;> rfl
  constructor
  · rintro ⟨trimmed, htrim, hlimit⟩
    obtain ⟨trimmer, htrims, rfl⟩ := (withTrim_iff hplain rfl).1 htrim
    change (ite _ _ _ : Splitter).withLimit _ = .ok s at hlimit
    rw [plain, hchosen] at hlimit
    obtain ⟨limit, hlimits, rfl⟩ := (withLimit_iff rfl).1 hlimit
    exact ⟨rfl, htrims, rfl, hlimits⟩
  · rintro ⟨rfl, htrims, rfl, hlimits⟩
    refine ⟨⟨s.delimiter, s.trimmer, false, none⟩, (withTrim_iff hplain rfl).2 ⟨_, htrims, rfl⟩, ?_⟩
    change (ite _ _ _ : Splitter).withLimit _ = .ok s
    rw [hchosen]
    exact (withLimit_iff rfl).2 ⟨_, hlimits, rfl⟩

/-- **What a mapping says about a splitter**: a delimiter, which leaves the names of the options to them, a
trimmer, whether empty tokens are dropped, which is a matter of truth alone, and a limit. -/
structure Describes [PatternReader] (entries : List (Value × Value)) (s : Splitter) : Prop where
  delimiter : s.delimiter.Describes optionNames entries
  trimmer : Trims (Value.get? entries "trim") s.trimmer
  omitEmpty : s.omitEmpty = ((Value.get? entries "omit_empty").getD (.bool false)).isTruthy
  limit : Limits (Value.get? entries "limit") s.limit

/-- **A splitter is read from what describes it**, and from nothing else. -/
theorem ofPlain_iff [PatternReader] (hplain : (Value.dict entries).isPlain = true) :
    ofPlain (.dict entries) = .ok s ↔ s.Describes entries := by
  have htrim : ∀ v ∈ Value.get? entries "trim", v.isPlain = true := fun v hv =>
    Value.isPlain_of_get? (by simpa [Value.isPlain] using hplain) hv
  have hdelimiter : ∀ d, Delimiter.ofPlain (.dict (Value.without entries optionNames)) = .ok d
      ↔ Delimiter.Describes optionNames entries d := fun d => by
    rw [Delimiter.ofPlain_iff (Value.entriesPlain_without hplain optionNames),
      Delimiter.describes_without_iff (by decide), List.nil_append]
  refine bind_eq_ok_iff.trans ?_
  simp only [hdelimiter, ofOptions_iff htrim]
  constructor
  · rintro ⟨d, hd, rfl, htrims, hempty, hlimits⟩
    exact ⟨hd, htrims, hempty, hlimits⟩
  · rintro ⟨hd, htrims, hempty, hlimits⟩
    exact ⟨_, hd, rfl, htrims, hempty, hlimits⟩

/-- **What is read is what is described.**  For a mapping of plain data, the reader gives a splitter exactly
if the mapping describes it, in its delimiter, its trimmer, its choice about empty tokens and its limit.
So it gives one at all exactly if the fields describe some delimiter, some trimmer or none, and some limit
or none; whatever the field of the choice holds is taken. -/
theorem ofPlain_iff_describes [PatternReader] (hplain : (Value.dict entries).isPlain = true) :
    (∀ s, ofPlain (.dict entries) = .ok s ↔ s.Describes entries)
      ∧ ((∃ s, ofPlain (.dict entries) = .ok s)
        ↔ (∃ d, Delimiter.Describes optionNames entries d)
          ∧ (∃ trimmer, Trims (Value.get? entries "trim") trimmer)
          ∧ ∃ limit, Limits (Value.get? entries "limit") limit) := by
  refine ⟨fun s => ofPlain_iff hplain, ?_⟩
  simp only [ofPlain_iff hplain]
  constructor
  · rintro ⟨s, hs⟩
    exact ⟨⟨_, hs.delimiter⟩, ⟨_, hs.trimmer⟩, _, hs.limit⟩
  · rintro ⟨⟨d, hd⟩, ⟨trimmer, htrims⟩, limit, hlimits⟩
    exact ⟨⟨d, trimmer, _, limit⟩, hd, htrims, rfl, hlimits⟩

/-- A class of two characters, with blanks to trim and a limit of three; and the truth value for yes, which
is no limit. -/
theorem ofPlain_class_with_limit :
    let entries (limit : Value) : List (Value × Value) :=
      [(.text "type", .text "char_class"), (.text "any_of", .text ",;"),
        (.text "trim", .dict [(.text "whitespace", .int 1)]), (.text "omit_empty", .text "yes"),
        (.text "limit", limit)]
    ofPlain (.dict (entries (.int 3)))
        = .ok ⟨.charClass (.anyOf ",;".toList), some ⟨.ofChars [], true, []⟩, true, some ⟨3, by decide⟩⟩
      ∧ ¬ ∃ s, ofPlain (.dict (entries (.bool true))) = .ok s := by
  intro entries
  have hplain : ∀ limit ∈ [Value.int 3, .bool true], (Value.dict (entries limit)).isPlain = true := by
    simp [entries, Value.isPlain, Value.entriesPlain]
  have hkeyed : ∀ limit, Value.Keyed (CharClass.fieldNames ++ ("type" :: optionNames)) (entries limit) :=
    fun limit => .cons (by decide) _ (.cons (by decide) _ (.cons (by decide) _ (.cons (by decide) _
      (Value.keyed_singleton (by decide) _))))
  constructor
  · refine ((ofPlain_iff_describes (hplain (.int 3) (by simp))).1 _).2 ⟨.charClass rfl ?_, ?_, rfl, ?_⟩
    · exact ⟨hkeyed _, .inr ⟨",;", rfl, rfl⟩, rfl, rfl⟩
    · exact .charClass ⟨Value.keyed_singleton (by decide) _, .inl ⟨rfl, rfl⟩, rfl, rfl⟩
    · exact .number (by decide)
  · intro hread
    obtain ⟨-, -, limit, hlimits⟩ :=
      ((ofPlain_iff_describes (hplain (.bool true) (by simp))).2).1 hread
    cases hlimits

end Splitter

end TextSplit
