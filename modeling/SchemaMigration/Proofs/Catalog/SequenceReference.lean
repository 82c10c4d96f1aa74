import SchemaMigration.Catalog.SequenceReference
import SchemaMigration.Proofs.Sql.Token
import SchemaMigration.Proofs.Text.Blank
import SchemaMigration.Proofs.Text.LetterCase

/-!
# Which texts are taken for a reference to a sequence

Each of the three spellings is described by what a text consists of: `nextval(` and a name
between quotes, `next value for` and a name, or a name and `.nextval`, of which the longest
one counts. The functions that look for them find these texts and no others.
-/

namespace SchemaMigration.Catalog

open Text

/-! ## Keywords and gaps -/

/-- A word in any letter case; the word is given in lower case. -/
def IsKeyword (word : String) (cs : List Char) : Prop :=
  cs.map Char.toLower = word.toList

/-- Blanks between two words. -/
structure IsGap (cs : List Char) : Prop where
  nonempty : cs ≠ []
  blank : AllBlank cs

namespace IsKeyword

variable {word : String} {cs : List Char}

theorem toLower_mem (hcs : IsKeyword word cs) {c : Char} (hc : c ∈ cs) :
    c.toLower ∈ word.toList := by
  rw [← hcs]
  exact List.mem_map_of_mem hc

theorem length_eq (hcs : IsKeyword word cs) : word.toList.length = cs.length := by
  rw [← hcs, List.length_map]

theorem quote_notMem (hcs : IsKeyword word cs) (hword : '\'' ∉ word.toList) : '\'' ∉ cs :=
  fun hquote => hword (hcs.toLower_mem hquote)

theorem mem_of_head? (hcs : IsKeyword word cs) (hne : word ≠ "") {rest : List Char} {c : Char}
    (hc : (cs ++ rest).head? = some c) : c ∈ cs := by
  have hcsne : cs ≠ [] := by
    rintro rfl
    exact hne (String.toList_eq_nil_iff.mp hcs.symm)
  rw [List.head?_append_of_ne_nil _ hcsne] at hc
  exact List.mem_of_mem_head? hc

end IsKeyword

theorem isKeyword_of_sameIgnoringCase {word keyword : String} (hword : lower word = word)
    (hkeyword : sameIgnoringCase keyword word = true) : IsKeyword word keyword.toList := by
  rw [IsKeyword, ← toList_lower, sameIgnoringCase_iff.mp hkeyword, hword]

/-- A keyword without blanks is written without blanks. -/
theorem IsKeyword.isBlank_eq_false {word : String} {cs : List Char} (hcs : IsKeyword word cs)
    (hword : word.toList.any isBlank = false) {c : Char} (hc : c ∈ cs) : isBlank c = false := by
  by_contra hblank
  rw [Bool.not_eq_false] at hblank
  have hmem := hcs.toLower_mem hc
  rw [toLower_of_isBlank hblank] at hmem
  exact List.any_eq_false.mp hword c hmem hblank

theorem afterWord?_eq_some_iff {word : String} {cs rest : List Char} :
    afterWord? word cs = some rest ↔ ∃ keyword, IsKeyword word keyword ∧ cs = keyword ++ rest := by
  simp only [afterWord?]
  constructor
  · intro h
    split at h
    · next hkeyword =>
      cases h
      exact ⟨_, hkeyword, (List.take_append_drop ..).symm⟩
    · cases h
  · rintro ⟨keyword, hkeyword, rfl⟩
    rw [hkeyword.length_eq, List.take_left, List.drop_left]
    exact if_pos hkeyword

theorem afterBlanks?_eq_some_iff {cs rest : List Char} :
    afterBlanks? cs = some rest ↔
      (∃ gap, IsGap gap ∧ cs = gap ++ rest) ∧ ∀ c, rest.head? = some c → isBlank c = false := by
  constructor
  · intro h
    cases cs with
    | nil => cases h
    | cons c cs =>
      rw [afterBlanks?] at h
      split at h
      · next hc =>
        cases h
        refine ⟨⟨c :: cs.takeWhile isBlank, ⟨by simp, ?_⟩, ?_⟩, fun d hd => of_head?_dropWhile hd⟩
        · exact List.forall_mem_cons.mpr ⟨hc, fun d hd => List.mem_takeWhile_imp hd⟩
        · rw [trimStart, List.cons_append, List.takeWhile_append_dropWhile]
      · cases h
  · rintro ⟨⟨gap, hgap, rfl⟩, hrest⟩
    obtain ⟨c, gap, rfl⟩ := List.exists_cons_of_ne_nil hgap.nonempty
    obtain ⟨hc, hblank⟩ := List.forall_mem_cons.mp hgap.blank
    rw [List.cons_append, afterBlanks?, if_pos hc, trimStart, dropWhile_append_of_head hblank hrest]

/-! ## The three spellings -/

/-- The longest stretch of characters of a kind at the start of a text, and what follows it. -/
structure IsStretch (p : Char → Bool) (cs rest : List Char) : Prop where
  nonempty : cs ≠ []
  all : ∀ c ∈ cs, p c = true
  longest : ∀ c, rest.head? = some c → p c = false

/-- A text that starts with `nextval(` and a name between quotes. -/
def CallsNextval (cs name : List Char) : Prop :=
  ∃ keyword blanks rest, IsKeyword "nextval(" keyword ∧ AllBlank blanks ∧
    cs = keyword ++ (blanks ++ '\'' :: (name ++ '\'' :: rest)) ∧
    IsStretch (· != '\'') name ('\'' :: rest)

/-- A character of a name after `next value for`, of its qualification and of what encloses it. -/
def isReferenceChar (c : Char) : Bool :=
  isNameChar c || c == '[' || c == ']'

/-- The words `next value for` with blanks between and after them. -/
inductive IsNextValueFor : List Char → Prop
  | intro {next gap₁ value gap₂ word gap₃ : List Char} (hnext : IsKeyword "next" next)
      (hgap₁ : IsGap gap₁) (hvalue : IsKeyword "value" value) (hgap₂ : IsGap gap₂)
      (hword : IsKeyword "for" word) (hgap₃ : IsGap gap₃) :
      IsNextValueFor (next ++ (gap₁ ++ (value ++ (gap₂ ++ (word ++ gap₃)))))

/-- A text that starts with `next value for` and a name. -/
def SaysNextValueFor (cs name : List Char) : Prop :=
  ∃ opening rest, IsNextValueFor opening ∧ cs = opening ++ (name ++ rest) ∧
    IsStretch isReferenceChar name rest

/-- A text that starts with a dot and the word `nextval`, with or without a quote between them. -/
def SaysDotNextval (cs : List Char) : Prop :=
  ∃ quote keyword rest, (quote = [] ∨ quote = ['"']) ∧ IsKeyword "nextval" keyword ∧
    cs = '.' :: (quote ++ (keyword ++ rest)) ∧ ∀ c, rest.head? = some c → isWord c = false

theorem quotedReference?_eq_some_iff {cs name : List Char} :
    quotedReference? cs = some name ↔ CallsNextval cs name := by
  simp only [quotedReference?, bind, Option.bind_eq_some_iff, afterWord?_eq_some_iff]
  constructor
  · rintro ⟨afterName, ⟨keyword, hkeyword, rfl⟩, hname⟩
    split at hname
    · next quoted hquoted =>
      split at hname
      · cases hname
      · next hclosed =>
        cases hname
        rw [Bool.or_eq_true, not_or, List.isEmpty_iff, decide_eq_true_eq] at hclosed
        obtain ⟨q, rest, hrest⟩ : ∃ q rest, quoted.dropWhile (· != '\'') = q :: rest := by
          refine List.exists_cons_of_ne_nil fun hnil => hclosed.2 ?_
          rw [List.takeWhile_eq_self_iff.mpr (List.dropWhile_eq_nil_iff.mp hnil)]
        obtain rfl : q = '\'' := by
          have hhead : (quoted.dropWhile (· != '\'')).head? = some q := by
            rw [hrest]
            rfl
          simpa using of_head?_dropWhile hhead
        refine ⟨keyword, afterName.takeWhile isBlank, rest, hkeyword,
          fun c hc => List.mem_takeWhile_imp hc, ?_, hclosed.1,
          fun c hc => List.mem_takeWhile_imp (p := (· != '\'')) hc, by simp⟩
        rw [← hrest, List.takeWhile_append_dropWhile, ← hquoted, trimStart,
          List.takeWhile_append_dropWhile]
    · cases hname
  · rintro ⟨keyword, blanks, rest, hkeyword, hblanks, rfl, hname⟩
    refine ⟨_, ⟨keyword, hkeyword, rfl⟩, ?_⟩
    have hquoted : trimStart (blanks ++ '\'' :: (name ++ '\'' :: rest)) =
        '\'' :: (name ++ '\'' :: rest) :=
      dropWhile_append_of_head hblanks (by simpa using (by decide : isBlank '\'' = false))
    rw [hquoted]
    simp only [takeWhile_append_of_head hname.all hname.longest]
    rw [if_neg]
    simpa using hname.nonempty

theorem isBlank_of_isReferenceChar {c : Char} (hc : isReferenceChar c = true) :
    isBlank c = false := by
  by_contra hblank
  rw [Bool.not_eq_false] at hblank
  have hmarks : ['.', '"', '$', '#', '[', ']'].any isBlank = false := by decide
  have hmark : c ∈ ['.', '"', '$', '#', '[', ']'] := by
    simpa [isReferenceChar, isNameChar, Sql.isWord_of_isBlank hblank, or_assoc] using hc
  exact List.any_eq_false.mp hmarks c hmark hblank

/-- A keyword ends the gap before it. -/
theorem IsKeyword.head {word : String} {keyword rest : List Char}
    (hkeyword : IsKeyword word keyword) (hword : word.toList.any isBlank = false)
    (hne : word ≠ "") : ∀ c, (keyword ++ rest).head? = some c → isBlank c = false :=
  fun _ hc => hkeyword.isBlank_eq_false hword (hkeyword.mem_of_head? hne hc)

theorem IsStretch.head {cs rest : List Char} (hcs : IsStretch isReferenceChar cs rest) :
    ∀ c, (cs ++ rest).head? = some c → isBlank c = false := by
  rw [List.head?_append_of_ne_nil _ hcs.nonempty]
  exact fun c hc => isBlank_of_isReferenceChar (hcs.all c (List.mem_of_mem_head? hc))

theorem namedReference?_eq_some_iff {cs name : List Char} :
    namedReference? cs = some name ↔ SaysNextValueFor cs name := by
  simp only [namedReference?, bind, Option.bind_eq_some_iff, afterWord?_eq_some_iff,
    afterBlanks?_eq_some_iff]
  constructor
  · rintro ⟨_, ⟨next, hnext, rfl⟩, _, ⟨⟨gap₁, hgap₁, rfl⟩, _⟩, _, ⟨value, hvalue, rfl⟩, _,
      ⟨⟨gap₂, hgap₂, rfl⟩, _⟩, _, ⟨word, hword, rfl⟩, text, ⟨⟨gap₃, hgap₃, rfl⟩, _⟩, hname⟩
    split at hname
    · cases hname
    · next hne =>
      cases hname
      rw [List.isEmpty_iff] at hne
      refine ⟨_, text.dropWhile isReferenceChar, ⟨hnext, hgap₁, hvalue, hgap₂, hword, hgap₃⟩, ?_,
        hne, fun c hc => List.mem_takeWhile_imp hc, fun c hc => of_head?_dropWhile hc⟩
      have htext : text.takeWhile isReferenceChar ++ text.dropWhile isReferenceChar = text :=
        List.takeWhile_append_dropWhile
      simp only [List.append_assoc, List.append_cancel_left_eq]
      exact htext.symm
  · rintro ⟨_, rest, ⟨hnext, hgap₁, hvalue, hgap₂, hword, hgap₃⟩, rfl, hname⟩
    simp only [List.append_assoc]
    refine ⟨_, ⟨_, hnext, rfl⟩, _, ⟨⟨_, hgap₁, rfl⟩, hvalue.head (by decide) (by decide)⟩,
      _, ⟨_, hvalue, rfl⟩, _, ⟨⟨_, hgap₂, rfl⟩, hword.head (by decide) (by decide)⟩,
      _, ⟨_, hword, rfl⟩, _, ⟨⟨_, hgap₃, rfl⟩, hname.head⟩, ?_⟩
    have hstretch :
        ((name ++ rest).takeWhile fun c => isNameChar c || c == '[' || c == ']') = name :=
      takeWhile_append_of_head hname.all hname.longest
    rw [hstretch, if_neg]
    simpa using hname.nonempty

theorem startsWithDottedNextval_iff {cs : List Char} :
    startsWithDottedNextval cs = true ↔ SaysDotNextval cs := by
  constructor
  · intro h
    unfold startsWithDottedNextval at h
    split at h
    · next cs =>
      simp only at h
      split at h
      · next rest hrest =>
        obtain ⟨keyword, hkeyword, heq⟩ := afterWord?_eq_some_iff.mp hrest
        have hend : ∀ c, rest.head? = some c → isWord c = false := by
          simpa [Option.all_eq_true] using h
        split at heq
        · next hquote =>
          obtain ⟨tail, rfl⟩ := List.head?_eq_some_iff.mp hquote
          exact ⟨['"'], keyword, rest, .inr rfl, hkeyword, by simpa using heq, hend⟩
        · exact ⟨[], keyword, rest, .inl rfl, hkeyword, by simpa using heq, hend⟩
      · cases h
    · cases h
  · rintro ⟨quote, keyword, rest, hquote, hkeyword, rfl, hend⟩
    have hafter : afterWord? "nextval" (keyword ++ rest) = some rest :=
      afterWord?_eq_some_iff.mpr ⟨keyword, hkeyword, rfl⟩
    -- No quote is taken off where there is none, as the keyword begins with a letter.
    have hunquoted : (if (quote ++ (keyword ++ rest)).head? = some '"' then
        (quote ++ (keyword ++ rest)).tail else quote ++ (keyword ++ rest)) = keyword ++ rest := by
      rcases hquote with rfl | rfl
      · refine if_neg fun hhead => ?_
        have hletter := hkeyword.toLower_mem (hkeyword.mem_of_head? (by decide) hhead)
        exact absurd hletter (by decide)
      · rfl
    simp only [startsWithDottedNextval, hunquoted, hafter]
    simpa [Option.all_eq_true] using hend

/-- A name before `.nextval`. -/
structure IsDotted (name rest : List Char) : Prop where
  nonempty : name ≠ []
  all : ∀ c ∈ name, isNameChar c = true
  nextval : SaysDotNextval rest

/-- A text that starts with a name and `.nextval`; of several such names the longest one. -/
def DotsNextval (cs name : List Char) : Prop :=
  (∃ rest, cs = name ++ rest ∧ IsDotted name rest) ∧
    ∀ longer rest, cs = longer ++ rest → IsDotted longer rest → longer.length ≤ name.length

theorem isDotted_of_dottedReference? {cs name : List Char}
    (hname : dottedReference? cs = some name) : ∃ rest, cs = name ++ rest ∧ IsDotted name rest := by
  induction cs generalizing name with
  | nil => cases hname
  | cons c cs ih =>
    rw [dottedReference?] at hname
    split at hname
    · next hc =>
      split at hname
      · next name' hname' =>
        cases hname
        obtain ⟨rest, rfl, hrest⟩ := ih hname'
        exact ⟨rest, rfl, by simp, List.forall_mem_cons.mpr ⟨hc, hrest.all⟩, hrest.nextval⟩
      · split at hname
        · next hstarts =>
          cases hname
          exact ⟨cs, rfl, by simp, by simpa using hc, startsWithDottedNextval_iff.mp hstarts⟩
        · cases hname
    · cases hname

theorem exists_dottedReference? {name rest : List Char} (hname : IsDotted name rest) :
    ∃ longest, dottedReference? (name ++ rest) = some longest ∧ name.length ≤ longest.length := by
  obtain ⟨hne, hall, hrest⟩ := hname
  induction name with
  | nil => exact absurd rfl hne
  | cons c name ih =>
    obtain ⟨hc, hall⟩ := List.forall_mem_cons.mp hall
    rw [List.cons_append, dottedReference?, if_pos hc]
    split
    · next longest hlongest =>
      refine ⟨_, rfl, ?_⟩
      rcases eq_or_ne name [] with rfl | hne
      · simp
      · obtain ⟨longest', heq, hlength⟩ := ih hne hall
        cases hlongest.symm.trans heq
        simpa using hlength
    · next hnone =>
      rcases eq_or_ne name [] with rfl | hne
      · exact ⟨[c], if_pos (startsWithDottedNextval_iff.mpr hrest), le_rfl⟩
      · obtain ⟨_, heq, _⟩ := ih hne hall
        cases hnone.symm.trans heq

theorem dottedReference?_eq_some_iff {cs name : List Char} :
    dottedReference? cs = some name ↔ DotsNextval cs name := by
  constructor
  · intro hname
    refine ⟨isDotted_of_dottedReference? hname, ?_⟩
    rintro longer rest rfl hlonger
    obtain ⟨longest, hlongest, hlength⟩ := exists_dottedReference? hlonger
    cases hname.symm.trans hlongest
    exact hlength
  · rintro ⟨⟨rest, rfl, hname⟩, hlongest⟩
    obtain ⟨longest, heq, hlength⟩ := exists_dottedReference? hname
    obtain ⟨rest', happend, hlonger⟩ := isDotted_of_dottedReference? heq
    have hsame := Nat.le_antisymm hlength (hlongest longest rest' happend hlonger)
    rw [heq, (List.append_inj happend hsame).1]

theorem CallsNextval.quote_mem {cs name : List Char} (hcs : CallsNextval cs name) : '\'' ∈ cs := by
  obtain ⟨keyword, blanks, rest, _, _, rfl, _⟩ := hcs
  simp

theorem quotedReference?_of_quote_notMem {cs : List Char} (hcs : '\'' ∉ cs) :
    quotedReference? cs = none :=
  Option.eq_none_iff_forall_ne_some.mpr fun _ hname =>
    hcs (quotedReference?_eq_some_iff.mp hname).quote_mem

theorem quote_notMem_of_forall {cs : List Char} {p : Char → Bool} (hcs : ∀ c ∈ cs, p c = true)
    (hp : p '\'' = false) : '\'' ∉ cs := by
  intro hquote
  rw [hcs _ hquote] at hp
  cases hp

theorem IsNextValueFor.quote_notMem {cs : List Char} (hcs : IsNextValueFor cs) : '\'' ∉ cs := by
  have hblank : isBlank '\'' = false := by decide
  obtain ⟨hnext, hgap₁, hvalue, hgap₂, hword, hgap₃⟩ := hcs
  simp only [List.mem_append, not_or]
  exact ⟨hnext.quote_notMem (by decide), quote_notMem_of_forall hgap₁.blank hblank,
    hvalue.quote_notMem (by decide), quote_notMem_of_forall hgap₂.blank hblank,
    hword.quote_notMem (by decide), quote_notMem_of_forall hgap₃.blank hblank⟩

theorem IsNextValueFor.exists_blank {cs : List Char} (hcs : IsNextValueFor cs) :
    ∃ c ∈ cs, isBlank c = true := by
  obtain ⟨_, hgap, _⟩ := hcs
  obtain ⟨c, hc⟩ := List.exists_mem_of_ne_nil _ hgap.nonempty
  exact ⟨c, by simp [hc], hgap.blank c hc⟩

theorem namedReference?_of_not_isBlank {cs : List Char} (hcs : ∀ c ∈ cs, isBlank c = false) :
    namedReference? cs = none := by
  refine Option.eq_none_iff_forall_ne_some.mpr fun name hname => ?_
  obtain ⟨opening, rest, hopening, rfl, _⟩ := namedReference?_eq_some_iff.mp hname
  obtain ⟨c, hc, hblank⟩ := hopening.exists_blank
  rw [hcs c (by simp [hc])] at hblank
  cases hblank

/-! ## The leftmost reference -/

theorem reference?_of_here {cs name : List Char} (hname : referenceHere? cs = some name) :
    reference? cs = some name := by
  cases cs with
  | nil => cases hname
  | cons c cs => rw [reference?, hname, Option.some_or]

/-- Where no reference starts, the first one starts further on. -/
theorem reference?_cons_of_none {c : Char} {cs : List Char}
    (hnone : referenceHere? (c :: cs) = none) :
    reference? (c :: cs) = reference? cs := by
  rw [reference?, hnone, Option.none_or]

end SchemaMigration.Catalog
