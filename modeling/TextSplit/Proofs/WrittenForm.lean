import TextSplit.PairSplitter.Plain
import TextSplit.Proofs.Fields
import Mathlib.Tactic.Lemma
import Mathlib.Tactic.SplitIfs

/-!
# Written and read back

A splitter is written as one flat mapping: the fields of its delimiter and up to three options stand
side by side, the fields of a class may be among the former or inside one of the latter, and everything
that says nothing is left out.  Only tests cannot be written.

Of the flags of a pattern, those that have a name are written.  The others are lost: what is read back is
the splitter without them.

* `Settles` — writing ends in one of two ways, and the classes that are written decide which.
* `CharClass.Single` — a class whose members are characters, so that their text tells them apart.
* `Pattern.Readable` — a pattern that has been read; `Pattern.named` is what is read back.
* **`CharClass.ofPlain_of_toPlain`**, **`Delimiter.ofPlain_of_toPlain`**,
  **`Splitter.ofPlain_of_toPlain`**, **`PairSplitter.ofPlain_of_toPlain`** — what has been written is
  read back, at each level.
* `CharClass.settles_toPlain` and its like — what can be written.
* **`written_form`** — both for splitters and pair splitters.
-/

namespace TextSplit

/-! ## What cannot be written -/

/-- Writing ends in one of two ways: none of the classes has a test and something is written, or one of
them has a test and its tests are reported. -/
inductive Settles {α : Type} (classes : List CharClass) : Except Fault α → Prop
  | written (plain : ∀ k ∈ classes, k.tests = []) (form : α) : Settles classes (.ok form)
  | refused {k : CharClass} (mem : k ∈ classes) (tests : k.tests ≠ []) :
      Settles classes (Fault.refuse (.classNotPlain (k.tests.map CharTest.name)))

namespace Settles

variable {α β : Type} {classes others : List CharClass} {x : Except Fault α}

/-- Writing one part and then another. -/
lemma bind (hx : Settles classes x) {f : α → Except Fault β} (hf : ∀ a, Settles others (f a)) :
    Settles (classes ++ others) (x >>= f) := by
  cases hx with
  | refused mem tests => exact .refused (List.mem_append_left _ mem) tests
  | written plain form =>
      change Settles _ (f form)
      have hform := hf form
      generalize f form = y at hform ⊢
      cases hform with
      | written plain' form' => exact .written (List.forall_mem_append.2 ⟨plain, plain'⟩) form'
      | refused mem tests => exact .refused (List.mem_append_right _ mem) tests

lemma map (h : Settles classes x) (f : α → β) : Settles classes (f <$> x) := by
  cases h with
  | written plain form => exact .written plain (f form)
  | refused mem tests => exact .refused mem tests

lemma pure (a : α) : Settles [] (Pure.pure a : Except Fault α) :=
  .written (fun _ h => absurd h List.not_mem_nil) a

/-- Something is written if there are no tests. -/
lemma exists_ok (h : Settles classes x) (hplain : ∀ k ∈ classes, k.tests = []) :
    ∃ form, x = .ok form := by
  cases h with
  | written plain form => exact ⟨form, rfl⟩
  | refused mem tests => exact absurd (hplain _ mem) tests

/-- Nothing but a test is a reason to refuse, and the report is on a setting. -/
lemma refused_iff (h : Settles classes x) :
    (∃ cause, x = Fault.refuse cause ∧ cause.report.kind = .configuration)
      ↔ ∃ k ∈ classes, k.tests ≠ [] := by
  cases h with
  | written plain form =>
      refine ⟨?_, ?_⟩
      · rintro ⟨cause, hcause, -⟩
        exact absurd hcause (by simp [Fault.refuse])
      · rintro ⟨k, hk, htests⟩
        exact absurd (plain k hk) htests
  | refused mem tests => exact ⟨fun _ => ⟨_, mem, tests⟩, fun _ => ⟨_, rfl, rfl⟩⟩

end Settles

/-- A computation that ends well passes through values that do. -/
lemma bind_eq_ok_iff {α β : Type} {x : Except Fault α} {f : α → Except Fault β} {b : β} :
    x >>= f = .ok b ↔ ∃ a, x = .ok a ∧ f a = .ok b := by
  cases x with
  | error fault => exact ⟨fun h => absurd h (by simp [Bind.bind, Except.bind]), by simp⟩
  | ok a => exact ⟨fun h => ⟨a, rfl, h⟩, by rintro ⟨_, ⟨⟩, h⟩; exact h⟩

lemma map_eq_ok_iff {α β : Type} {x : Except Fault α} {f : α → β} {b : β} :
    f <$> x = .ok b ↔ ∃ a, x = .ok a ∧ f a = b := by
  cases x with
  | error fault => exact ⟨fun h => absurd h (by simp [Functor.map, Except.map]), by simp⟩
  | ok a => exact ⟨fun h => ⟨a, rfl, Except.ok.inj h⟩, by rintro ⟨_, ⟨⟩, rfl⟩; rfl⟩

/-! ## Classes -/

/-- A set of single characters is told by its members, one after another. -/
lemma TextSet.ofChars_joined {s : TextSet} (hs : ∀ t ∈ s, ∃ c, t = [c]) : .ofChars s.joined = s := by
  refine TextSet.ext fun t => ?_
  rw [ofChars, mem_ofList, joined, List.mem_map]
  constructor
  · rintro ⟨c, hc, rfl⟩
    obtain ⟨u, hu, hcu⟩ := List.mem_flatten.1 hc
    obtain ⟨d, rfl⟩ := hs u hu
    rw [List.mem_singleton] at hcu
    exact hcu ▸ hu
  · intro ht
    obtain ⟨c, rfl⟩ := hs t ht
    exact ⟨c, List.mem_flatten.2 ⟨[c], ht, List.mem_singleton_self c⟩, rfl⟩

namespace CharClass

variable {k : CharClass} {fields : List (Value × Value)}

/-- Every member is a single character. -/
def Single (k : CharClass) : Prop := ∀ t ∈ k.members, ∃ c, t = [c]

lemma Single.anyOf (chars : List Char) : (CharClass.anyOf chars).Single := by
  intro t ht
  obtain ⟨c, -, rfl⟩ := List.mem_map.1 (TextSet.mem_ofList.1 ht)
  exact ⟨c, rfl⟩

lemma Single.union {l : CharClass} (hk : k.Single) (hl : l.Single) : (k.union l).Single :=
  fun t ht => (TextSet.mem_union.1 ht).elim (hk t) (hl t)

/-- A class that compares equal to the blanks has no test either, and is the blanks. -/
lemma eq_blanks_of_beq {k : CharClass} (h : (k == .blanks) = true) : k = .blanks := by
  obtain ⟨members, blank, tests⟩ := k
  change (members == _ && blank == _ && tests == []) = true at h
  rw [Bool.and_eq_true, Bool.and_eq_true, beq_iff_eq, beq_iff_eq] at h
  obtain ⟨⟨rfl, rfl⟩, htests⟩ := h
  cases tests with
  | nil => rfl
  | cons test rest => exact absurd htests Bool.false_ne_true

lemma settles_toPlain (k : CharClass) : Settles [k] k.toPlain := by
  rw [toPlain]
  split
  · rename_i hplain
    refine .written (fun l hl => ?_) _
    rw [List.mem_singleton.1 hl]
    exact List.isEmpty_iff.1 hplain
  · rename_i hplain
    exact .refused (List.mem_singleton_self k) fun htests => hplain (List.isEmpty_iff.2 htests)

/-- The fields that are written. -/
lemma toPlain_eq_ok_iff :
    k.toPlain = .ok fields ↔ k.tests = []
      ∧ (if k.blank then [(.text "whitespace", .bool true)] else [])
        ++ (if k.members.isEmpty then []
            else [(.text "any_of", .text (String.ofList k.members.joined))]) = fields := by
  rw [toPlain, isPlain, ← List.isEmpty_iff]
  split_ifs <;> simp_all [Fault.refuse]

lemma keyed_of_toPlain (h : k.toPlain = .ok fields) : Value.Keyed fieldNames fields := by
  rw [← (toPlain_eq_ok_iff.1 h).2]
  exact (Value.Keyed.ite (Value.keyed_singleton (by decide) _) (Value.keyed_nil _)).append
    (Value.Keyed.ite (Value.keyed_nil _) (Value.keyed_singleton (by decide) _))

/-- Fields of the right names are not refused for their names. -/
lemma ofPlain_of_keyed (h : Value.Keyed fieldNames fields) :
    ofPlain (.dict fields) = ofFields fields := by
  have hhash : (fields.map Prod.fst).all Value.isHashable = true :=
    List.all_eq_true.2 (h.forall_key fun _ _ => rfl)
  have hknown : ∀ p : Value → Bool, (∀ name ∈ fieldNames, p (.text name) = false) →
      (fields.map Prod.fst).filter p = [] := by
    intro p hp
    refine List.filter_eq_nil_iff.2 (h.forall_key fun name hname => ?_)
    rw [hp name hname]
    exact Bool.false_ne_true
  simp only [ofPlain, Value.items?, hhash]
  rw [hknown _ fun name hname => by simp only [List.contains_iff_mem.2 hname, Bool.not_true]]
  rfl

/-- **A class is read back.** -/
theorem ofPlain_of_toPlain (h : k.toPlain = .ok fields) (hk : k.Single) :
    ofPlain (.dict fields) = .ok k := by
  rw [ofPlain_of_keyed (keyed_of_toPlain h)]
  obtain ⟨htests, hfields⟩ := toPlain_eq_ok_iff.1 h
  have hblank : (Value.get? fields "whitespace").getD (.bool false) = .bool k.blank := by
    rw [← hfields]
    cases k.blank <;> cases k.members.isEmpty <;> rfl
  have hchars : (Value.get? fields "any_of").getD (.text "")
      = .text (String.ofList k.members.joined) := by
    rw [← hfields]
    cases hempty : k.members.isEmpty with
    | true =>
        -- nothing is written for no members, and nothing is read as none
        have hnil : k.members.joined = [] := by
          rw [TextSet.joined, List.isEmpty_iff.1 hempty, List.flatten_nil]
        rw [hnil]
        cases k.blank <;> rfl
    | false => cases k.blank <;> rfl
  rw [ofFields, hchars, hblank]
  simp only [String.toList_ofList, TextSet.ofChars_joined hk, Value.isTruthy, ← htests]

end CharClass

/-! ## Delimiters -/

/-- What counts as an integer can be a key. -/
lemma Value.isHashable_of_asInt? {v : Value} {n : Int} (h : v.asInt? = some n) : v.isHashable = true := by
  cases v with
  | bool | int => rfl
  | thing t =>
      cases t with
      | flags f => rfl
      | _ => exact absurd h (by simp [asInt?])
  | _ => exact absurd h (by simp [asInt?])

namespace Pattern

variable {p : Pattern}

/-- A pattern that has been read from a text. -/
def Readable [PatternReader] (p : Pattern) : Prop := ∃ source n, PatternReader.compile source n = .ok p

/-- A pattern without the flags that have no name. -/
def named (p : Pattern) : Pattern := { p with flags := p.flags.written }

lemma matchesEmpty_named (p : Pattern) : p.named.matchesEmpty = p.matchesEmpty := rfl

lemma named_eq_self_iff (p : Pattern) : p.named = p ↔ p.flags.written = p.flags := by
  obtain ⟨source, flags, tree⟩ := p
  simp [named]

/-- A text and flags that count as an integer are read as the reader reads them. -/
lemma ofValues_counted [PatternReader] (source : String) {flags : Value} {n : Int}
    (hint : flags.asInt? = some n) :
    ofValues (.text source) flags
      = (PatternReader.compile source.toList n).mapError (seen (.text source) source.toList) := by
  rw [ofValues, if_neg (by simp [Value.isHashable, Value.isHashable_of_asInt? hint])]
  simp only [hint]

lemma ofValues_text [PatternReader] {source : String} {flags : Value} {n : Int}
    (hint : flags.asInt? = some n) (hread : PatternReader.compile source.toList n = .ok p) :
    ofValues (.text source) flags = .ok p := by
  rw [ofValues_counted source hint, hread]
  rfl

/-- **A pattern is read back** from its text and the flags that are written, as what it is under these. -/
lemma Readable.ofValues_source [PatternReader] (hp : p.Readable) {flags : Value}
    (hint : flags.asInt? = some p.flags.written.number) :
    ofValues (.text (String.ofList p.source)) flags = .ok p.named := by
  obtain ⟨source, n, hread⟩ := hp
  refine ofValues_text hint ?_
  rw [String.toList_ofList, PatternReader.compile_written hread]
  rfl

end Pattern

namespace Delimiter

variable {d : Delimiter} {entries : List (Value × Value)}

/-- The pattern that a delimiter cuts at, if it cuts at one. -/
def pattern? : Delimiter → Option Pattern
  | .pattern p _ => some p
  | _ => none

/-- A delimiter without the flags that have no name. -/
def named : Delimiter → Delimiter
  | .pattern p cuts => .pattern p.named (p.matchesEmpty_named.trans cuts)
  | d => d

lemma named_eq_self_iff : d.named = d ↔ ∀ p ∈ d.pattern?, p.flags.written = p.flags := by
  cases d with
  | pattern p cuts => simp [named, pattern?, p.named_eq_self_iff]
  | _ => simp [named, pattern?]

/-- What is lost is not written anyway. -/
lemma toPlain_named : d.named.toPlain = d.toPlain := by
  cases d with
  | pattern p cuts => simp [named, toPlain, Pattern.named, Pattern.Flags.written_written]
  | _ => rfl

/-- The class that a delimiter holds, if it holds one. -/
def class? : Delimiter → Option CharClass
  | .charClass k => some k
  | _ => none

/-- The names of the fields of a delimiter, of whatever kind. -/
def fieldNames : List String :=
  ["type", "separator", "pattern", "flags", "length"] ++ CharClass.fieldNames

lemma compiled_of_ofValues [PatternReader] {source flags : Value} {p : Pattern}
    (h : Pattern.ofValues source flags = .ok p) (cuts : p.matchesEmpty = false) :
    compiled source flags = .ok (.pattern p cuts) := by
  rw [compiled, h]
  exact dif_pos cuts

lemma toPlain_charClass (k : CharClass) :
    toPlain (.charClass k) = (toPlain.typed "char_class" :: ·) <$> k.toPlain := by
  rw [toPlain]
  cases k.toPlain <;> rfl

lemma settles_toPlain (d : Delimiter) : Settles d.class?.toList d.toPlain := by
  cases d with
  | charClass k =>
      rw [toPlain_charClass]
      exact k.settles_toPlain.map _
  | _ => exact .pure _

/-- The mapping of a known kind is read as that kind. -/
lemma ofPlain_typed [PatternReader] {kind : String} (hkind : kind ∈ Cause.delimiterTypes)
    (rest : List (Value × Value)) :
    ofPlain (.dict (toPlain.typed kind :: rest)) = ofEntries kind (toPlain.typed kind :: rest) := by
  have hcontains : Cause.delimiterTypes.contains kind = true := List.contains_iff_mem.2 hkind
  simp only [ofPlain, kindOf, toPlain.typed, Value.get?_cons_text, beq_self_eq_true, if_true,
    Value.isHashable, hcontains]
  rfl

lemma keyed_of_toPlain (h : d.toPlain = .ok entries) : Value.Keyed fieldNames entries := by
  cases d with
  | pattern p cuts =>
      obtain rfl := Except.ok.inj h
      exact Value.Keyed.append (.cons (by decide) _ (Value.keyed_singleton (by decide) _))
        (Value.Keyed.ite (Value.keyed_nil _) (Value.keyed_singleton (by decide) _))
  | charClass k =>
      rw [toPlain_charClass] at h
      obtain ⟨fields, hfields, rfl⟩ := map_eq_ok_iff.1 h
      exact .cons (by decide) _
        ((CharClass.keyed_of_toPlain hfields).mono (List.subset_append_right _ _))
  | _ =>
      obtain rfl := Except.ok.inj h
      exact .cons (by decide) _ (Value.keyed_singleton (by decide) _)

/-- **A delimiter is read back**, but for the flags of its pattern that have no name. -/
theorem ofPlain_of_toPlain [PatternReader] (h : d.toPlain = .ok entries)
    (hd : ∀ k ∈ d.class?, k.Single) (hp : ∀ p ∈ d.pattern?, p.Readable) :
    ofPlain (.dict entries) = .ok d.named := by
  cases d with
  | char c =>
      obtain rfl := Except.ok.inj h
      rw [ofPlain_typed (by decide)]
      change ofChar (.text c.toString) = _
      simp [ofChar, Value.text?, named]
  | literal separator hasChar =>
      obtain rfl := Except.ok.inj h
      rw [ofPlain_typed (by decide)]
      change ofLiteral (.text (String.ofList separator)) = _
      obtain ⟨c, rest, rfl⟩ := List.exists_cons_of_ne_nil hasChar
      simp [ofLiteral, Value.text?, named]
  | pattern p cuts =>
      obtain rfl := Except.ok.inj h
      rw [List.cons_append, ofPlain_typed (by decide)]
      -- flags that say nothing are left out, and then none are read
      have hread := hp p rfl
      split_ifs with hnone
      · change compiled (.text (String.ofList p.source)) (.int 0) = _
        exact compiled_of_ofValues (hread.ofValues_source (by rw [hnone]; rfl)) _
      · change compiled (.text (String.ofList p.source)) (.thing (.flags p.flags.written)) = _
        exact compiled_of_ofValues (hread.ofValues_source (by rw [p.flags.number_written]; rfl)) _
  | chunk length positive =>
      obtain rfl := Except.ok.inj h
      rw [ofPlain_typed (by decide)]
      change ofLength (.int length) = _
      simp [ofLength, positive, named]
  | charClass k =>
      rw [toPlain_charClass] at h
      obtain ⟨fields, hfields, rfl⟩ := map_eq_ok_iff.1 h
      have hrest : Value.without (toPlain.typed "char_class" :: fields) ["type"] = fields :=
        Value.without_of_keyed (CharClass.keyed_of_toPlain hfields) (by decide)
      rw [ofPlain_typed (by decide)]
      change (CharClass.ofPlain (.dict (Value.without _ ["type"])) >>= _) = _
      rw [hrest, CharClass.ofPlain_of_toPlain hfields (hd k rfl)]
      rfl

end Delimiter

/-! ## Splitters -/

namespace Splitter

variable {s : Splitter} {trimmer : Option CharClass} {entries : List (Value × Value)}

/-- The classes that a splitter holds: one to cut at, one to trim. -/
def classes (s : Splitter) : List CharClass := s.delimiter.class?.toList ++ s.trimmer.toList

/-- The patterns that a splitter holds: one to cut at. -/
def patterns (s : Splitter) : List Pattern := s.delimiter.pattern?.toList

/-- A splitter without the flags that have no name. -/
def named (s : Splitter) : Splitter := { s with delimiter := s.delimiter.named }

lemma named_eq_self_iff : s.named = s ↔ ∀ p ∈ s.patterns, p.flags.written = p.flags := by
  obtain ⟨delimiter, trimmer, omitEmpty, limit⟩ := s
  simp [named, patterns, Delimiter.named_eq_self_iff]

lemma toPlain_named : s.named.toPlain = s.toPlain := by
  simp only [toPlain, named, Delimiter.toPlain_named]
  rfl

lemma trimEntries_some (k : CharClass) :
    trimEntries (some k) = (fun v => [(.text "trim", v)]) <$> trimToPlain k := by
  rw [trimEntries]
  cases trimToPlain k <;> rfl

lemma settles_trimEntries (trimmer : Option CharClass) :
    Settles trimmer.toList (trimEntries trimmer) := by
  cases trimmer with
  | none => exact .pure _
  | some k =>
      have htrim : Settles [k] (trimToPlain k) := by
        rw [trimToPlain]
        split_ifs with hblanks
        · rw [CharClass.eq_blanks_of_beq hblanks]
          exact .written (by simp [CharClass.blanks]) _
        · exact k.settles_toPlain.map _
      rw [trimEntries_some]
      exact htrim.map _

lemma settles_toPlain (s : Splitter) : Settles s.classes s.toPlain := by
  rw [classes, ← List.append_nil s.trimmer.toList]
  exact s.delimiter.settles_toPlain.bind fun _ =>
    (settles_trimEntries s.trimmer).bind fun _ => .pure _

/-- **Trimming is read back.** -/
lemma withTrim_of_trimEntries {trim : List (Value × Value)} (h : trimEntries trimmer = .ok trim)
    (hk : ∀ k ∈ trimmer, k.Single) (d : Delimiter) :
    (plain d).withTrim ((Value.get? trim "trim").getD .null)
      = .ok { plain d with trimmer := trimmer } := by
  cases trimmer with
  | none =>
      obtain rfl := Except.ok.inj h
      rfl
  | some k =>
      rw [trimEntries_some] at h
      obtain ⟨v, hv, rfl⟩ := map_eq_ok_iff.1 h
      rw [trimToPlain] at hv
      split_ifs at hv with hblanks
      · obtain rfl := Except.ok.inj hv
        rw [CharClass.eq_blanks_of_beq hblanks]
        rfl
      · obtain ⟨fields, hfields, rfl⟩ := map_eq_ok_iff.1 hv
        change Splitter.trimming (plain d) <$> CharClass.ofPlain (.dict fields) = _
        rw [CharClass.ofPlain_of_toPlain hfields (hk k rfl)]
        rfl

lemma keyed_of_trimEntries {trim : List (Value × Value)} (h : trimEntries trimmer = .ok trim) :
    Value.Keyed ["trim"] trim := by
  cases trimmer with
  | none =>
      obtain rfl := Except.ok.inj h
      exact Value.keyed_nil _
  | some k =>
      rw [trimEntries_some] at h
      obtain ⟨v, -, rfl⟩ := map_eq_ok_iff.1 h
      exact Value.keyed_singleton (by decide) v

/-- A limit is read back. -/
lemma withLimit_limit (s : Splitter) (limit : Option Limit) :
    s.withLimit ((limit.map fun n => Value.int n.1).getD .null)
      = .ok { s with limit := limit.or s.limit } := by
  cases limit with
  | none => rfl
  | some n =>
      change s.limited <$> limitOf (.int n.1) = _
      simp only [limitOf, Int.toNat_natCast, n.2, dif_pos]
      rfl

/-- **Options are read back.**  Each is found by its name, whatever stands before it. -/
lemma ofOptions_append {trim rest : List (Value × Value)} (h : trimEntries trimmer = .ok trim)
    (hk : ∀ k ∈ trimmer, k.Single) (hrest : Value.Keyed ["omit_empty", "limit"] rest)
    {omitEmpty : Bool} {limit : Option Limit}
    (ho : ((Value.get? rest "omit_empty").getD (.bool false)).isTruthy = omitEmpty)
    (hl : Value.get? rest "limit" = limit.map fun n => .int n.1) (d : Delimiter) :
    ofOptions d (trim ++ rest) = .ok ⟨d, trimmer, omitEmpty, limit⟩ := by
  have htrim := keyed_of_trimEntries h
  rw [ofOptions, Value.get?_append_left trim hrest (by decide), withTrim_of_trimEntries h hk,
    Value.get?_append_right htrim rest (by decide), Value.get?_append_right htrim rest (by decide),
    ho, hl]
  change withLimit _ _ = _
  rw [withLimit_limit]
  cases omitEmpty <;> cases limit <;> rfl

/-- The fields of the delimiter and the options do not get in each other's way. -/
lemma ofPlain_append [PatternReader] {delimiter options : List (Value × Value)}
    (hd : Value.Keyed Delimiter.fieldNames delimiter) (ho : Value.Keyed optionNames options) :
    ofPlain (.dict (delimiter ++ options))
      = Delimiter.ofPlain (.dict delimiter) >>= fun d => ofOptions d options := by
  have hwithout : Value.without (delimiter ++ options) optionNames = delimiter := by
    rw [Value.without_append, Value.without_of_keyed hd (by decide),
      Value.without_eq_nil_of_keyed ho, List.append_nil]
  have hget : ∀ name ∈ optionNames,
      Value.get? (delimiter ++ options) name = Value.get? options name := by
    intro name hname
    have hdisjoint : ∀ name ∈ optionNames, name ∉ Delimiter.fieldNames := by decide
    exact Value.get?_append_right hd options (hdisjoint name hname)
  simp only [ofPlain, ofOptions, hwithout, hget "trim" (by decide), hget "omit_empty" (by decide),
    hget "limit" (by decide)]

/-- **What is written, in order**: the delimiter, the option of trimming, and the other two. -/
lemma exists_parts (h : s.toPlain = .ok entries) :
    ∃ delimiter trim rest, s.delimiter.toPlain = .ok delimiter ∧ trimEntries s.trimmer = .ok trim
      ∧ entries = delimiter ++ (trim ++ rest) ∧ Value.Keyed ["omit_empty", "limit"] rest
      ∧ ((Value.get? rest "omit_empty").getD (.bool false)).isTruthy = s.omitEmpty
      ∧ Value.get? rest "limit" = s.limit.map fun n => .int n.1 := by
  rw [toPlain] at h
  obtain ⟨delimiter, hdelimiter, h⟩ := bind_eq_ok_iff.1 h
  obtain ⟨trim, htrim, h⟩ := bind_eq_ok_iff.1 h
  have hassoc := (Except.ok.inj h).symm.trans (List.append_assoc _ _ _)
  refine ⟨delimiter, trim, _, hdelimiter, htrim, hassoc.trans (List.append_assoc _ _ _), ?_, ?_, ?_⟩
  · refine (Value.Keyed.ite (Value.keyed_singleton (by decide) _) (Value.keyed_nil _)).append ?_
    split
    · exact Value.keyed_singleton (by decide) _
    · exact Value.keyed_nil _
  · cases s.omitEmpty <;> cases s.limit <;> rfl
  · cases s.omitEmpty <;> cases s.limit <;> rfl

/-- **A splitter is read back**, but for the flags of its pattern that have no name. -/
theorem ofPlain_of_toPlain [PatternReader] (h : s.toPlain = .ok entries)
    (hs : ∀ k ∈ s.classes, k.Single) (hp : ∀ p ∈ s.patterns, p.Readable) :
    ofPlain (.dict entries) = .ok s.named := by
  obtain ⟨hdclass, htclass⟩ := List.forall_mem_append.1 hs
  obtain ⟨delimiter, trim, rest, hdelimiter, htrim, rfl, hrest, homit, hlimit⟩ := exists_parts h
  have hoptions : Value.Keyed optionNames (trim ++ rest) :=
    ((keyed_of_trimEntries htrim).mono (by decide)).append (hrest.mono (by decide))
  rw [ofPlain_append (Delimiter.keyed_of_toPlain hdelimiter) hoptions,
    Delimiter.ofPlain_of_toPlain hdelimiter (fun k hk => hdclass k (Option.mem_toList.2 hk))
      fun p hmem => hp p (Option.mem_toList.2 hmem)]
  exact ofOptions_append htrim (fun k hk => htclass k (Option.mem_toList.2 hk)) hrest homit hlimit _

end Splitter

/-! ## Pair splitters -/

namespace PairSplitter

variable {m : PairSplitter} {sections : List (Value × Value)}

/-- The classes that a pair splitter holds. -/
def classes (m : PairSplitter) : List CharClass := m.entries.classes ++ m.fields.classes

/-- The patterns that a pair splitter holds. -/
def patterns (m : PairSplitter) : List Pattern := m.entries.patterns ++ m.fields.patterns

/-- A pair splitter without the flags that have no name. -/
def named (m : PairSplitter) : PairSplitter := ⟨m.entries.named, m.fields.named⟩

lemma named_eq_self_iff : m.named = m ↔ ∀ p ∈ m.patterns, p.flags.written = p.flags := by
  obtain ⟨entries, fields⟩ := m
  simp only [named, patterns, List.forall_mem_append, PairSplitter.mk.injEq, Splitter.named_eq_self_iff]

lemma settles_toPlain (m : PairSplitter) : Settles m.classes m.toPlain := by
  rw [classes, ← List.append_nil m.fields.classes]
  exact m.entries.settles_toPlain.bind fun _ => m.fields.settles_toPlain.bind fun _ => .pure _

/-- **A pair splitter is read back**, but for the flags of its patterns that have no name. -/
theorem ofPlain_of_toPlain [PatternReader] (h : m.toPlain = .ok sections)
    (hm : ∀ k ∈ m.classes, k.Single) (hp : ∀ p ∈ m.patterns, p.Readable) :
    ofPlain (.dict sections) = .ok m.named := by
  obtain ⟨heclass, hfclass⟩ := List.forall_mem_append.1 hm
  obtain ⟨hepattern, hfpattern⟩ := List.forall_mem_append.1 hp
  rw [toPlain] at h
  obtain ⟨entries, hentries, h⟩ := bind_eq_ok_iff.1 h
  obtain ⟨fields, hfields, h⟩ := bind_eq_ok_iff.1 h
  obtain rfl := Except.ok.inj h
  change (Splitter.ofPlain (.dict entries) >>= fun e => Splitter.ofPlain (.dict fields) >>= fun f =>
    Except.ok (PairSplitter.mk e f)) = _
  rw [Splitter.ofPlain_of_toPlain hentries heclass hepattern,
    Splitter.ofPlain_of_toPlain hfields hfclass hfpattern]
  rfl

end PairSplitter

/-! ## Both -/

/-- **Written and read back.**  Writing a splitter is refused, as a fault of the settings, exactly if
the class that it cuts at or the class that it trims holds a test.  Otherwise, and if the members of
these classes are single characters, something is written.  Let its pattern, if it has one, be one that was
read.  Then reading what is written gives the splitter without the flags that have no name, which is the
splitter itself exactly if all flags of the pattern have one.  The same goes for a pair splitter and the
classes and patterns of its two splitters. -/
theorem written_form [PatternReader] :
    (∀ s : Splitter, (∀ p ∈ s.patterns, p.Readable) →
      ((∃ cause, s.toPlain = Fault.refuse cause ∧ cause.report.kind = .configuration)
          ↔ ∃ k ∈ s.classes, k.tests ≠ [])
        ∧ ((∀ k ∈ s.classes, k.tests = [] ∧ k.Single) →
          ∃ entries, s.toPlain = .ok entries ∧ Splitter.ofPlain (.dict entries) = .ok s.named)
        ∧ (s.named = s ↔ ∀ p ∈ s.patterns, p.flags.written = p.flags))
      ∧ ∀ m : PairSplitter, (∀ p ∈ m.patterns, p.Readable) →
        ((∃ cause, m.toPlain = Fault.refuse cause ∧ cause.report.kind = .configuration)
            ↔ ∃ k ∈ m.classes, k.tests ≠ [])
          ∧ ((∀ k ∈ m.classes, k.tests = [] ∧ k.Single) →
            ∃ sections, m.toPlain = .ok sections
              ∧ PairSplitter.ofPlain (.dict sections) = .ok m.named)
          ∧ (m.named = m ↔ ∀ p ∈ m.patterns, p.flags.written = p.flags) := by
  refine ⟨fun s hp => ⟨s.settles_toPlain.refused_iff, fun hs => ?_, Splitter.named_eq_self_iff⟩,
    fun m hp => ⟨m.settles_toPlain.refused_iff, fun hm => ?_, PairSplitter.named_eq_self_iff⟩⟩
  · obtain ⟨entries, hentries⟩ := s.settles_toPlain.exists_ok fun k hk => (hs k hk).1
    exact ⟨entries, hentries, Splitter.ofPlain_of_toPlain hentries (fun k hk => (hs k hk).2) hp⟩
  · obtain ⟨sections, hsections⟩ := m.settles_toPlain.exists_ok fun k hk => (hm k hk).1
    exact ⟨sections, hsections, PairSplitter.ofPlain_of_toPlain hsections (fun k hk => (hm k hk).2) hp⟩

/-- A splitter with a class in both places and every option set, and entries of keys and values
separated by a letter in either case. -/
theorem written_form_commas :
    let s := (((Splitter.plain (.charClass (.union .blanks (.anyOf [',', ';'])))).trimming
      (.anyOf ['_'])).droppingEmpty).limited ⟨3, by decide⟩
    ∃ p, PatternReader.compile ['a'] 2 = .ok p ∧ ∃ cuts,
      let m := PairSplitter.mk s (.plain (.pattern p cuts))
      (∃ entries, s.toPlain = .ok entries ∧ Splitter.ofPlain (.dict entries) = .ok s)
        ∧ ∃ sections, m.toPlain = .ok sections ∧ PairSplitter.ofPlain (.dict sections) = .ok m := by
  intro s
  have hclasses : ∀ k ∈ s.classes, k.tests = [] ∧ k.Single := by
    have hblanks : CharClass.Single .blanks := fun t ht => absurd ht TextSet.not_mem_empty
    refine List.forall_mem_cons.2 ⟨⟨rfl, hblanks.union (.anyOf _)⟩, ?_⟩
    exact List.forall_mem_cons.2 ⟨⟨rfl, .anyOf _⟩, fun _ h => absurd h List.not_mem_nil⟩
  obtain ⟨p, hread, hcuts, hnamed⟩ : ∃ p, PatternReader.compile ['a'] 2 = .ok p
      ∧ p.matchesEmpty = false ∧ p.flags.written = p.flags := ⟨_, rfl, rfl, rfl⟩
  refine ⟨p, hread, hcuts, ?_⟩
  intro m
  obtain ⟨-, hwritten, hnone⟩ := written_form.1 s fun p hp => absurd hp List.not_mem_nil
  obtain ⟨-, hwritten', hnone'⟩ := written_form.2 m <| List.forall_mem_singleton.2 ⟨_, _, hread⟩
  have hs : s.named = s := hnone.2 fun p hp => absurd hp List.not_mem_nil
  have hm : m.named = m := hnone'.2 <| List.forall_mem_singleton.2 hnamed
  rw [hs] at hwritten
  rw [hm] at hwritten'
  exact ⟨hwritten hclasses, hwritten' hclasses⟩

/-- **A splitter that is not read back**: a pattern with a flag that has no name. -/
theorem written_form_unnamed :
    ∃ s, Splitter.onPattern (.text "a") (.int 512) = .ok s
      ∧ ∃ entries, s.toPlain = .ok entries ∧ ∃ again, Splitter.ofPlain (.dict entries) = .ok again
        ∧ again ≠ s := by
  obtain ⟨p, hread, hcuts, hunnamed⟩ : ∃ p, PatternReader.compile ['a'] 512 = .ok p
      ∧ p.matchesEmpty = false ∧ p.flags.written ≠ p.flags := ⟨_, rfl, rfl, by decide⟩
  let s := Splitter.plain (.pattern p hcuts)
  have hreadable : ∀ q ∈ s.patterns, q.Readable := List.forall_mem_singleton.2 ⟨_, _, hread⟩
  obtain ⟨entries, hentries⟩ := s.settles_toPlain.exists_ok fun k hk => absurd hk List.not_mem_nil
  have hagain := Splitter.ofPlain_of_toPlain hentries (fun k hk => absurd hk List.not_mem_nil) hreadable
  have hmade : Delimiter.compiled (.text "a") (.int 512) = .ok (.pattern p hcuts) :=
    Delimiter.compiled_of_ofValues (Pattern.ofValues_text rfl hread) hcuts
  refine ⟨s, congrArg (Splitter.plain <$> ·) hmade, entries, hentries, _, hagain, fun hsame => ?_⟩
  exact hunnamed (Splitter.named_eq_self_iff.1 hsame p (List.mem_singleton_self p))

end TextSplit
