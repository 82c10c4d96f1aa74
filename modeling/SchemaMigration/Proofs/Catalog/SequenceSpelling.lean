import SchemaMigration.Proofs.Catalog.SequenceReference

/-!
# How a default spells the sequence it draws from

The name of a sequence may be qualified by its schema, and its parts may stand between quotes or
brackets. A default that draws from the sequence in one of the three spellings, in whatever
letter case the keywords are, is read as the bare name.
-/

namespace SchemaMigration.Catalog

open Text

/-! ## Written names -/

/-- What a part of a name may stand between. -/
inductive Enclosure where
  | nothing
  | quotes
  | brackets
  deriving DecidableEq, Repr

/-- A part of a name and what it stands between. -/
structure NamePart where
  text : String
  enclosure : Enclosure := .nothing

/-- A part of a name as it is written. -/
def NamePart.written (p : NamePart) : String :=
  match p.enclosure with
  | .nothing => p.text
  | .quotes => "\"" ++ p.text ++ "\""
  | .brackets => "[" ++ p.text ++ "]"

/-- A character of a name itself. -/
def isPlainChar (c : Char) : Bool :=
  c.isAlphanum || c == '_' || c == '$' || c == '#'

/-- A part that is not empty and consists of plain characters, apart from what it stands
between. -/
structure NamePart.IsPlain (p : NamePart) : Prop where
  nonempty : p.text ≠ ""
  plain : ∀ c ∈ p.text.toList, isPlainChar c = true

instance (p : NamePart) : Decidable p.IsPlain :=
  decidable_of_iff (p.text ≠ "" ∧ p.text.toList.all isPlainChar = true) <| by
    rw [List.all_eq_true]
    exact ⟨fun ⟨hne, hplain⟩ => ⟨hne, hplain⟩, fun hp => ⟨hp.nonempty, hp.plain⟩⟩

/-- The name of a sequence, which may be qualified by its schema. -/
structure WrittenName where
  schema : Option NamePart := none
  name : NamePart

namespace WrittenName

def parts (n : WrittenName) : List NamePart :=
  n.schema.toList ++ [n.name]

/-- A name as it is written, with a dot after the schema. -/
def written (n : WrittenName) : String :=
  ".".intercalate (n.parts.map NamePart.written)

/-- All parts of a name are plain. -/
def IsPlain (n : WrittenName) : Prop :=
  ∀ p ∈ n.parts, p.IsPlain

/-- No part of a name stands between brackets. -/
def IsUnbracketed (n : WrittenName) : Prop :=
  ∀ p ∈ n.parts, p.enclosure ≠ .brackets

instance (n : WrittenName) : Decidable n.IsPlain :=
  inferInstanceAs (Decidable (∀ p ∈ n.parts, p.IsPlain))

instance (n : WrittenName) : Decidable n.IsUnbracketed :=
  inferInstanceAs (Decidable (∀ p ∈ n.parts, p.enclosure ≠ .brackets))

/-- `next value for` and a name, with blanks between the words. -/
inductive IsNextValue (n : WrittenName) : String → Prop
  | intro {next gap₁ value gap₂ word gap₃ : String} (hnext : sameIgnoringCase next "next" = true)
      (hgap₁ : IsGap gap₁.toList) (hvalue : sameIgnoringCase value "value" = true)
      (hgap₂ : IsGap gap₂.toList) (hword : sameIgnoringCase word "for" = true)
      (hgap₃ : IsGap gap₃.toList) :
      IsNextValue n (next ++ (gap₁ ++ (value ++ (gap₂ ++ (word ++ (gap₃ ++ n.written))))))

/-- A default that draws from the sequence of a name, in the spelling of one of the dialects. -/
inductive DrawnBy (n : WrittenName) : String → Prop
  | nextval {keyword : String} (hkeyword : sameIgnoringCase keyword "nextval" = true)
      (hname : n.IsUnbracketed) (rest : String) :
      DrawnBy n (keyword ++ ("('" ++ (n.written ++ ("'" ++ rest))))
  | nextValue {text : String} (htext : n.IsNextValue text) : DrawnBy n text
  | parenthesized {text : String} (htext : n.IsNextValue text) : DrawnBy n ("(" ++ text ++ ")")
  | dotted {keyword : String} (hkeyword : sameIgnoringCase keyword "nextval" = true)
      (hname : n.IsUnbracketed) : DrawnBy n (n.written ++ ("." ++ keyword))
  | dottedQuotes {keyword : String} (hkeyword : sameIgnoringCase keyword "nextval" = true)
      (hname : n.IsUnbracketed) : DrawnBy n (n.written ++ (".\"" ++ (keyword ++ "\"")))

end WrittenName

/-! ## The name itself -/

theorem of_isPlainChar {c : Char} (hc : isPlainChar c = true) :
    isNameChar c = true ∧ c ≠ '.' ∧ isEnclosing c = false := by
  have htable : ∀ n ∈ List.range 128, isPlainChar (Char.ofNat n) = true →
      isNameChar (Char.ofNat n) = true ∧ Char.ofNat n ≠ '.' ∧
        isEnclosing (Char.ofNat n) = false := by decide +kernel
  have hbound : c.toNat < 128 := by
    delta isPlainChar Char.isAlphanum Char.isAlpha Char.isUpper Char.isLower Char.isDigit at hc
    simp [UInt32.le_iff_toNat_le] at hc
    have hcode : c.toNat = c.val.toNat := rfl
    rcases hc with ((hc | rfl) | rfl) | rfl
    · omega
    all_goals decide
  rw [← Char.ofNat_toNat c] at hc ⊢
  exact htable _ (List.mem_range.mpr hbound) hc

/-- A part of a name is written as it is, between two quotes or between two brackets. -/
theorem NamePart.exists_toList_written (p : NamePart) :
    ∃ before after, p.written.toList = before ++ p.text.toList ++ after ∧
      ∀ c ∈ before ++ after, isEnclosing c = true ∧ (p.enclosure ≠ .brackets → c = '"') := by
  obtain ⟨text, enclosure⟩ := p
  cases enclosure with
  | nothing => exact ⟨[], [], by simp [written], by simp⟩
  | quotes => exact ⟨['"'], ['"'], by simp [written], by simp [isEnclosing]⟩
  | brackets => exact ⟨['['], [']'], by simp [written], by simp [isEnclosing]⟩

namespace NamePart.IsPlain

variable {p : NamePart} (hplain : p.IsPlain)

include hplain

theorem written_ne_empty : p.written ≠ "" := by
  obtain ⟨before, after, hwritten, _⟩ := p.exists_toList_written
  intro hempty
  simp [hempty, hplain.nonempty] at hwritten

theorem mem_written {c : Char} (hc : c ∈ p.written.toList) :
    isPlainChar c = true ∨ isEnclosing c = true ∧ (p.enclosure ≠ .brackets → c = '"') := by
  obtain ⟨before, after, hwritten, henclosing⟩ := p.exists_toList_written
  rw [hwritten, List.append_assoc, List.mem_append, List.mem_append] at hc
  rcases hc with hc | hc | hc
  · exact .inr (henclosing c (by simp [hc]))
  · exact .inl (hplain.plain c hc)
  · exact .inr (henclosing c (by simp [hc]))

/-- What encloses a part is taken off it. -/
theorem dropTrailing_written :
    dropTrailing isEnclosing (p.written.toList.dropWhile isEnclosing) = p.text.toList := by
  obtain ⟨before, after, hwritten, henclosing⟩ := p.exists_toList_written
  have hopen {c : Char} (hc : c ∈ p.text.toList) : isEnclosing c = false :=
    (of_isPlainChar (hplain.plain c hc)).2.2
  have hne : p.text.toList ≠ [] := by simpa using hplain.nonempty
  rw [hwritten, List.append_assoc, dropWhile_append_of_head, dropTrailing_append_of_last]
  · exact fun c hc => (henclosing c (by simp [hc])).1
  · exact fun c hc => hopen (List.mem_of_getLast? hc)
  · exact fun c hc => (henclosing c (by simp [hc])).1
  · rw [List.head?_append_of_ne_nil _ hne]
    exact fun c hc => hopen (List.mem_of_mem_head? hc)

end NamePart.IsPlain

namespace WrittenName

theorem toList_written (n : WrittenName) :
    n.written.toList = ['.'].intercalate (n.parts.map fun p => p.written.toList) := by
  rw [written, String.toList_intercalate, List.map_map]
  rfl

theorem mem_written {n : WrittenName} {c : Char} (hc : c ∈ n.written.toList) :
    c = '.' ∨ ∃ p ∈ n.parts, c ∈ p.written.toList := by
  obtain ⟨schema, name⟩ := n
  cases schema with
  | none => exact .inr ⟨name, by simp [parts], by simpa [written, parts] using hc⟩
  | some q =>
    have hmem : c ∈ q.written.toList ∨ c = '.' ∨ c ∈ name.written.toList := by
      simpa [written, parts, or_assoc] using hc
    rcases hmem with hc | rfl | hc
    · exact .inr ⟨q, by simp [parts], hc⟩
    · exact .inl rfl
    · exact .inr ⟨name, by simp [parts], hc⟩

namespace IsPlain

variable {n : WrittenName} (hplain : n.IsPlain)

include hplain

theorem written_ne_nil : n.written.toList ≠ [] := by
  obtain ⟨schema, name⟩ := n
  have hname := (hplain name (by simp [parts])).written_ne_empty
  cases schema <;> simp [written, parts, hname]

theorem isReferenceChar_of_mem {c : Char} (hc : c ∈ n.written.toList) :
    isReferenceChar c = true := by
  rcases mem_written hc with rfl | ⟨p, hp, hc⟩
  · decide
  · rcases (hplain p hp).mem_written hc with hc | ⟨hc, _⟩
    · rw [isReferenceChar, (of_isPlainChar hc).1]
      rfl
    · simp only [isEnclosing, Bool.or_eq_true, beq_iff_eq] at hc
      rcases hc with (rfl | rfl) | rfl <;> decide

theorem isNameChar_of_mem (hname : n.IsUnbracketed) {c : Char} (hc : c ∈ n.written.toList) :
    isNameChar c = true := by
  rcases mem_written hc with rfl | ⟨p, hp, hc⟩
  · decide
  · rcases (hplain p hp).mem_written hc with hc | ⟨_, hquote⟩
    · exact (of_isPlainChar hc).1
    · rw [hquote (hname p hp)]
      decide

/-- The schema and what encloses the name are taken off. -/
theorem unqualified_written : unqualified n.written.toList = n.name.text.toList := by
  have hdots : ∀ cs ∈ n.parts.map fun p => p.written.toList, '.' ∉ cs := by
    intro cs hcs hdot
    obtain ⟨p, hp, rfl⟩ := List.mem_map.mp hcs
    rcases (hplain p hp).mem_written hdot with hplainDot | ⟨henclosing, _⟩
    · exact (of_isPlainChar hplainDot).2.1 rfl
    · exact absurd henclosing (by decide)
  have hsplit : n.written.toList.splitOn '.' = n.parts.map fun p => p.written.toList := by
    rw [toList_written, List.splitOn_intercalate '.' hdots (by simp [parts])]
  have hlast : (n.written.toList.splitOn '.').getLastD [] = n.name.written.toList := by
    rw [hsplit, parts, List.map_append, List.getLastD_eq_getLast?]
    simp
  rw [unqualified, hlast]
  exact (hplain n.name (by simp [parts])).dropTrailing_written

end IsPlain

end WrittenName

/-! ## Reading the spellings -/

namespace WrittenName

variable {n : WrittenName} {text : String}

/-- What is found in a default is the name as it is written. -/
def IsFoundIn (n : WrittenName) (cs : List Char) : Prop :=
  reference? cs = some n.written.toList

theorem IsPlain.sequenceReference?_eq (hplain : n.IsPlain) (hfound : n.IsFoundIn text.toList) :
    sequenceReference? text = some n.name.text := by
  have hne := (hplain n.name (by simp [parts])).nonempty
  rw [sequenceReference?, hfound, Option.bind_some, hplain.unqualified_written]
  cases hcs : n.name.text.toList with
  | nil => exact absurd (String.toList_eq_nil_iff.mp hcs) hne
  | cons c cs =>
    change some (String.ofList (c :: cs)) = some n.name.text
    rw [← hcs, String.ofList_toList]

theorem isFoundIn_nextval (hplain : n.IsPlain) (hname : n.IsUnbracketed) {keyword : String}
    (hkeyword : sameIgnoringCase keyword "nextval" = true) (rest : String) :
    n.IsFoundIn (keyword ++ ("('" ++ (n.written ++ ("'" ++ rest)))).toList := by
  have hquote : ∀ c ∈ n.written.toList, (c != '\'') = true := by
    intro c hc
    rw [bne_iff_ne]
    rintro rfl
    exact absurd (hplain.isNameChar_of_mem hname hc) (by decide)
  have hcall : CallsNextval (keyword ++ ("('" ++ (n.written ++ ("'" ++ rest)))).toList
      n.written.toList := by
    refine ⟨keyword.toList ++ ['('], [], rest.toList, ?_, nofun, by simp, hplain.written_ne_nil,
      hquote, by simp⟩
    rw [IsKeyword, List.map_append, isKeyword_of_sameIgnoringCase (by decide) hkeyword]
    decide
  refine reference?_of_here ?_
  rw [referenceHere?, quotedReference?_eq_some_iff.mpr hcall]
  rfl

theorem IsNextValue.exists_opening (htext : n.IsNextValue text) :
    ∃ opening, IsNextValueFor opening ∧ text.toList = opening ++ n.written.toList := by
  obtain ⟨hnext, hgap₁, hvalue, hgap₂, hword, hgap₃⟩ := htext
  refine ⟨_, ⟨isKeyword_of_sameIgnoringCase (by decide) hnext, hgap₁,
    isKeyword_of_sameIgnoringCase (by decide) hvalue, hgap₂,
    isKeyword_of_sameIgnoringCase (by decide) hword, hgap₃⟩, ?_⟩
  simp

/-- A default with `next value for` has no quotes in it. -/
theorem IsNextValue.quote_notMem (hplain : n.IsPlain) (htext : n.IsNextValue text) :
    '\'' ∉ text.toList := by
  obtain ⟨opening, hopening, heq⟩ := htext.exists_opening
  rw [heq, List.mem_append, not_or]
  exact ⟨hopening.quote_notMem,
    quote_notMem_of_forall (fun c hc => hplain.isReferenceChar_of_mem hc) (by decide)⟩

theorem IsNextValue.saysNextValueFor (hplain : n.IsPlain) (htext : n.IsNextValue text)
    {rest : List Char} (hrest : ∀ c, rest.head? = some c → isReferenceChar c = false) :
    SaysNextValueFor (text.toList ++ rest) n.written.toList := by
  obtain ⟨opening, hopening, heq⟩ := htext.exists_opening
  exact ⟨opening, rest, hopening, by rw [heq, List.append_assoc], hplain.written_ne_nil,
    fun c hc => hplain.isReferenceChar_of_mem hc, hrest⟩

theorem IsNextValue.isFoundIn (hplain : n.IsPlain) (htext : n.IsNextValue text) (rest : List Char)
    (hquote : '\'' ∉ rest) (hrest : ∀ c, rest.head? = some c → isReferenceChar c = false) :
    n.IsFoundIn (text.toList ++ rest) := by
  have hunquoted : '\'' ∉ text.toList ++ rest := by
    simpa using ⟨htext.quote_notMem hplain, hquote⟩
  refine reference?_of_here ?_
  rw [referenceHere?, quotedReference?_of_quote_notMem hunquoted,
    namedReference?_eq_some_iff.mpr (htext.saysNextValueFor hplain hrest)]
  rfl

/-- A name with `.nextval` after it is read up to the last dot. -/
theorem isFoundIn_dotted (hplain : n.IsPlain) (hname : n.IsUnbracketed) {tail : List Char}
    (htail : SaysDotNextval ('.' :: tail)) (hdot : '.' ∉ tail)
    (hmarks : ∀ c ∈ tail, c ≠ '\'' ∧ isBlank c = false) :
    n.IsFoundIn (n.written.toList ++ '.' :: tail) := by
  have hwritten : ∀ c ∈ n.written.toList, isNameChar c = true := fun c hc =>
    hplain.isNameChar_of_mem hname hc
  have hfree : ∀ c ∈ n.written.toList ++ '.' :: tail, c ≠ '\'' ∧ isBlank c = false := by
    intro c hc
    rcases List.mem_append.mp hc with hc | hc
    · refine ⟨?_, isBlank_of_isReferenceChar (hplain.isReferenceChar_of_mem hc)⟩
      rintro rfl
      exact absurd (hwritten _ hc) (by decide)
    · rcases List.mem_cons.mp hc with rfl | hc
      · decide
      · exact hmarks c hc
  have hdots : DotsNextval (n.written.toList ++ '.' :: tail) n.written.toList := by
    refine ⟨⟨_, rfl, hplain.written_ne_nil, hwritten, htail⟩, fun longer rest heq hlonger => ?_⟩
    -- What follows the longer name begins with a dot, and the last dot is the one before `nextval`.
    by_contra hlength
    obtain ⟨quote, keyword, after, _, _, rfl, _⟩ := hlonger.nextval
    rcases List.append_eq_append_iff.mp heq with ⟨between, rfl, hbetween⟩ | ⟨between, hshorter, _⟩
    · cases between with
      | nil => simp at hlength
      | cons c between =>
        obtain ⟨rfl, rfl⟩ := List.cons.inj hbetween
        simp at hdot
    · rw [hshorter, List.length_append] at hlength
      omega
  refine reference?_of_here ?_
  rw [referenceHere?, quotedReference?_of_quote_notMem fun hquote => (hfree _ hquote).1 rfl,
    namedReference?_of_not_isBlank fun c hc => (hfree c hc).2,
    dottedReference?_eq_some_iff.mpr hdots]
  rfl

theorem isFoundIn_nextvalWord (hplain : n.IsPlain) (hname : n.IsUnbracketed) {keyword : String}
    (hkeyword : sameIgnoringCase keyword "nextval" = true) {quote : List Char}
    (hquote : quote = [] ∨ quote = ['"']) :
    n.IsFoundIn (n.written.toList ++ '.' :: (quote ++ (keyword.toList ++ quote))) := by
  have hword := isKeyword_of_sameIgnoringCase (by decide) hkeyword
  have hmem {c : Char} (hc : c ∈ quote ++ (keyword.toList ++ quote)) :
      c = '"' ∨ c ∈ keyword.toList := by
    rcases hquote with rfl | rfl <;> simp at hc ⊢ <;> grind
  refine isFoundIn_dotted hplain hname ⟨quote, keyword.toList, quote, hquote, hword, rfl, ?_⟩ ?_ ?_
  · rcases hquote with rfl | rfl
    · nofun
    · intro c hc
      cases hc
      decide
  · intro hdot
    rcases hmem hdot with hdot | hdot
    · exact absurd hdot (by decide)
    · exact absurd (hword.toLower_mem hdot) (by decide)
  · intro c hc
    rcases hmem hc with rfl | hc
    · decide
    · refine ⟨?_, hword.isBlank_eq_false (by decide) hc⟩
      rintro rfl
      exact absurd (hword.toLower_mem hc) (by decide)

/-- However the sequence of a default is spelled, the default is read as the bare name of the
sequence: without the schema, and without the quotes or brackets around the name. -/
theorem spelled_sequence_is_read (hplain : n.IsPlain) (htext : n.DrawnBy text) :
    sequenceReference? text = some n.name.text := by
  refine hplain.sequenceReference?_eq ?_
  cases htext with
  | nextval hkeyword hname rest => exact isFoundIn_nextval hplain hname hkeyword rest
  | nextValue htext =>
    have hfound := htext.isFoundIn hplain [] (by simp) (by simp)
    rwa [List.append_nil] at hfound
  | parenthesized htext =>
    have hclosing : ∀ c, [')'].head? = some c → isReferenceChar c = false := by
      simpa using (by decide : isReferenceChar ')' = false)
    have hfound := htext.isFoundIn hplain [')'] (by simp) hclosing
    rw [String.toList_append, String.toList_append, List.append_assoc]
    -- No reference starts with a parenthesis.
    exact (reference?_cons_of_none rfl).trans hfound
  | dotted hkeyword hname =>
    have hfound := isFoundIn_nextvalWord hplain hname hkeyword (.inl rfl)
    simpa using hfound
  | dottedQuotes hkeyword hname =>
    have hfound := isFoundIn_nextvalWord hplain hname hkeyword (.inr rfl)
    simpa using hfound

/-- The last `nextval` is the keyword, also where the schema and the sequence have names that
keywords have elsewhere. -/
theorem spelled_sequence_is_read_value :
    let n : WrittenName :=
      { schema := some { text := "nextval" }, name := { text := "value#1", enclosure := .quotes } }
    n.IsPlain ∧ n.DrawnBy "nextval.\"value#1\".\"NextVal\"" ∧
      sequenceReference? "nextval.\"value#1\".\"NextVal\"" = some "value#1" := by
  intro n
  have hplain : n.IsPlain := by decide
  have htext : n.DrawnBy "nextval.\"value#1\".\"NextVal\"" :=
    @DrawnBy.dottedQuotes n "NextVal" (by decide) (by decide)
  exact ⟨hplain, htext, spelled_sequence_is_read hplain htext⟩

end WrittenName

end SchemaMigration.Catalog
