import SchemaMigration.Proofs.Catalog.Recreation
import SchemaMigration.Proofs.Catalog.SequenceReference
import SchemaMigration.Proofs.Sql.Literal

/-!
# Defaults that are string literals

A quote ends whatever may be taken for a reference, and the quotes of a literal are doubled, so
the spelling with a name between quotes never occurs in it. The other two spellings are found
wherever they stand, also inside a literal. So a literal draws from no sequence exactly where
nothing in it, or in the type it is cast to, is spelled like a reference that names something.
-/

namespace SchemaMigration.Catalog

open Text
open Sql (doubleQuotes doubleQuotes_append doubleQuotes_eq_self doubleQuotes_cons_of_ne
  doubleQuotes_cons_quote literal toList_literal)

/-! ## References without quotes -/

/-- A text that starts with a reference in a spelling that does without quotes around the name. -/
def BeginsReference (cs name : List Char) : Prop :=
  SaysNextValueFor cs name ∨ DotsNextval cs name

/-- The leftmost reference of a text. -/
inductive FirstReference : List Char → List Char → Prop
  | here {cs name : List Char} (hname : BeginsReference cs name) : FirstReference cs name
  | later {c : Char} {cs name : List Char} (hnone : ∀ other, ¬ BeginsReference (c :: cs) other)
      (hname : FirstReference cs name) : FirstReference (c :: cs) name

theorem firstReference_cons_iff {c : Char} {cs name : List Char} :
    FirstReference (c :: cs) name ↔
      BeginsReference (c :: cs) name ∨
        (∀ other, ¬ BeginsReference (c :: cs) other) ∧ FirstReference cs name := by
  constructor
  · intro hname
    cases hname with
    | here hname => exact .inl hname
    | later hnone hname => exact .inr ⟨hnone, hname⟩
  · rintro (hname | ⟨hnone, hname⟩)
    · exact .here hname
    · exact .later hnone hname

/-- What follows a name tells which of the two spellings it is in. -/
theorem SaysNextValueFor.not_dotsNextval {cs name other : List Char}
    (hname : SaysNextValueFor cs name) : ¬ DotsNextval cs other := by
  rintro ⟨⟨rest, heq, hother⟩, _⟩
  obtain ⟨_, rest', ⟨hnext, hgap, _⟩, rfl, _⟩ := hname
  obtain ⟨quote, keyword, after, _, _, rfl, _⟩ := hother.nextval
  obtain ⟨b, gap, rfl⟩ := List.exists_cons_of_ne_nil hgap.nonempty
  have hb : isBlank b = true := hgap.blank b (by simp)
  simp only [List.append_assoc, List.cons_append] at heq
  rcases List.append_eq_append_iff.mp heq with ⟨tail, rfl, htail⟩ | ⟨tail, rfl, htail⟩
  · cases tail with
    | nil =>
      obtain ⟨rfl, _⟩ := List.cons.inj htail
      exact absurd hb (by decide)
    | cons c tail =>
      obtain ⟨rfl, _⟩ := List.cons.inj htail
      have hc : isReferenceChar b = true := by
        rw [isReferenceChar, hother.all b (by simp)]
        rfl
      rw [isBlank_of_isReferenceChar hc] at hb
      cases hb
  · cases tail with
    | nil =>
      obtain ⟨rfl, _⟩ := List.cons.inj htail
      exact absurd hb (by decide)
    | cons c tail =>
      obtain ⟨rfl, _⟩ := List.cons.inj htail
      exact absurd (hnext.toLower_mem (c := '.') (by simp)) (by decide)

theorem namedReference?_or_dottedReference? {cs name : List Char} :
    (namedReference? cs).or (dottedReference? cs) = some name ↔ BeginsReference cs name := by
  rw [Option.or_eq_some_iff, namedReference?_eq_some_iff, dottedReference?_eq_some_iff,
    BeginsReference]
  refine or_congr_right (and_iff_right_of_imp fun hdots => ?_)
  refine Option.eq_none_iff_forall_ne_some.mpr fun other hother => ?_
  exact (namedReference?_eq_some_iff.mp hother).not_dotsNextval hdots

/-! ## Quotes end references -/

section

variable {u v cs rest name : List Char}

theorem head?_append_quote {p : Char → Bool} (hp : p '\'' = false) :
    (∀ c, (rest ++ '\'' :: v).head? = some c → p c = false) ↔
      ∀ c, rest.head? = some c → p c = false := by
  cases rest <;> simp [hp]

theorem saysNextValueFor_append_quote :
    SaysNextValueFor (u ++ '\'' :: v) name ↔ SaysNextValueFor u name := by
  have hquote : isReferenceChar '\'' = false := by decide
  constructor
  · rintro ⟨opening, rest, hopening, heq, hname⟩
    have hfree : '\'' ∉ opening ++ name := by
      rw [List.mem_append, not_or]
      exact ⟨hopening.quote_notMem, quote_notMem_of_forall hname.all hquote⟩
    rw [← List.append_assoc] at heq
    obtain ⟨rest', rfl, rfl⟩ := exists_append_of_notMem hfree heq
    exact ⟨opening, rest', hopening, List.append_assoc .., hname.nonempty, hname.all,
      (head?_append_quote hquote).mp hname.longest⟩
  · rintro ⟨opening, rest, hopening, rfl, hname⟩
    exact ⟨opening, rest ++ '\'' :: v, hopening, by simp, hname.nonempty, hname.all,
      (head?_append_quote hquote).mpr hname.longest⟩

theorem saysDotNextval_append_quote : SaysDotNextval (u ++ '\'' :: v) ↔ SaysDotNextval u := by
  have hword : isWord '\'' = false := by decide
  constructor
  · rintro ⟨quote, keyword, rest, hquote, hkeyword, heq, hend⟩
    have hfree : '\'' ∉ '.' :: (quote ++ keyword) := by
      have hletters := hkeyword.quote_notMem (by decide)
      rcases hquote with rfl | rfl <;> simpa using hletters
    rw [← List.append_assoc, ← List.cons_append] at heq
    obtain ⟨rest', rfl, rfl⟩ := exists_append_of_notMem hfree heq
    exact ⟨quote, keyword, rest', hquote, hkeyword, by simp, (head?_append_quote hword).mp hend⟩
  · rintro ⟨quote, keyword, rest, hquote, hkeyword, rfl, hend⟩
    exact ⟨quote, keyword, rest ++ '\'' :: v, hquote, hkeyword, by simp,
      (head?_append_quote hword).mpr hend⟩

theorem isDotted_append_quote : IsDotted name (u ++ '\'' :: v) ↔ IsDotted name u :=
  ⟨fun ⟨hne, hall, hnextval⟩ => ⟨hne, hall, saysDotNextval_append_quote.mp hnextval⟩,
    fun ⟨hne, hall, hnextval⟩ => ⟨hne, hall, saysDotNextval_append_quote.mpr hnextval⟩⟩

/-- The names that may stand before `.nextval` are the same without what follows a quote. -/
theorem exists_isDotted_append_quote :
    (∃ rest, u ++ '\'' :: v = name ++ rest ∧ IsDotted name rest) ↔
      ∃ rest, u = name ++ rest ∧ IsDotted name rest := by
  constructor
  · rintro ⟨rest, heq, hname⟩
    have hfree := quote_notMem_of_forall hname.all (by decide)
    obtain ⟨rest', rfl, rfl⟩ := exists_append_of_notMem hfree heq
    exact ⟨rest', rfl, isDotted_append_quote.mp hname⟩
  · rintro ⟨rest, rfl, hname⟩
    exact ⟨rest ++ '\'' :: v, by simp, isDotted_append_quote.mpr hname⟩

theorem dotsNextval_append_quote : DotsNextval (u ++ '\'' :: v) name ↔ DotsNextval u name := by
  simp only [DotsNextval, exists_isDotted_append_quote, ← and_imp, ← exists_imp]

/-- A reference at the start of a text ends before the first quote. -/
theorem beginsReference_append_quote :
    BeginsReference (u ++ '\'' :: v) name ↔ BeginsReference u name :=
  or_congr saysNextValueFor_append_quote dotsNextval_append_quote

end

/-! ## Literals -/

section

variable {cs text cast name : List Char}

theorem beginsReference_doubleQuotes :
    BeginsReference (doubleQuotes cs) name ↔ BeginsReference cs name := by
  by_cases hquote : '\'' ∈ cs
  · obtain ⟨u, v, rfl, hu⟩ := List.eq_append_cons_of_mem hquote
    rw [doubleQuotes_append, doubleQuotes_eq_self hu, doubleQuotes_cons_quote,
      beginsReference_append_quote, beginsReference_append_quote]
  · rw [doubleQuotes_eq_self hquote]

/-- Between quotes the same references begin as in the text itself. -/
theorem beginsReference_doubleQuotes_append (text cast name : List Char) :
    BeginsReference (doubleQuotes text ++ '\'' :: cast) name ↔
      BeginsReference (text ++ '\'' :: cast) name := by
  rw [beginsReference_append_quote, beginsReference_append_quote, beginsReference_doubleQuotes]

/-- A name between quotes needs a quote that stands alone and another quote after it. -/
theorem quotedReference?_doubleQuotes_append (text : List Char) (hcast : '\'' ∉ cast) :
    quotedReference? (doubleQuotes text ++ '\'' :: cast) = none := by
  refine Option.eq_none_iff_forall_ne_some.mpr fun name hname => ?_
  obtain ⟨keyword, blanks, rest, hkeyword, hblanks, heq, hstretch⟩ :=
    quotedReference?_eq_some_iff.mp hname
  have hfree : '\'' ∉ keyword ++ blanks := by
    rw [List.mem_append, not_or]
    exact ⟨hkeyword.quote_notMem (by decide), quote_notMem_of_forall hblanks (by decide)⟩
  rw [← List.append_assoc] at heq
  by_cases hquote : '\'' ∈ text
  · obtain ⟨u, v, rfl, hu⟩ := List.eq_append_cons_of_mem hquote
    rw [doubleQuotes_append, doubleQuotes_eq_self hu, doubleQuotes_cons_quote, List.append_assoc,
      List.cons_append] at heq
    rcases append_cons_cases hfree heq with ⟨rfl, hrest⟩ | ⟨rest', rfl, _⟩
    · -- The second of two quotes would be a character of the name.
      obtain ⟨c, name, rfl⟩ := List.exists_cons_of_ne_nil hstretch.nonempty
      obtain ⟨rfl, _⟩ := List.cons.inj hrest
      exact absurd (hstretch.all '\'' (by simp)) (by decide)
    · simp at hu
  · rw [doubleQuotes_eq_self hquote] at heq
    rcases append_cons_cases hfree heq with ⟨rfl, rfl⟩ | ⟨rest', rfl, _⟩
    · simp at hcast
    · simp at hquote

theorem reference?_cons_eq_some_iff {c : Char} (hquoted : quotedReference? (c :: cs) = none) :
    reference? (c :: cs) = some name ↔
      BeginsReference (c :: cs) name ∨
        (∀ other, ¬ BeginsReference (c :: cs) other) ∧ reference? cs = some name := by
  rw [reference?, referenceHere?, hquoted, Option.none_or, Option.or_eq_some_iff,
    Option.eq_none_iff_forall_ne_some]
  simp only [ne_eq, namedReference?_or_dottedReference?]

theorem not_beginsReference_nil : ¬ BeginsReference [] name := by
  rw [← namedReference?_or_dottedReference?]
  nofun

theorem not_firstReference_nil : ¬ FirstReference [] name := by
  intro hname
  cases hname with
  | here hname => exact not_beginsReference_nil hname

theorem reference?_of_quote_notMem (hcs : '\'' ∉ cs) :
    reference? cs = some name ↔ FirstReference cs name := by
  induction cs with
  | nil => exact iff_of_false nofun not_firstReference_nil
  | cons c cs ih =>
    rw [reference?_cons_eq_some_iff (quotedReference?_of_quote_notMem hcs),
      ih (List.not_mem_of_not_mem_cons hcs), firstReference_cons_iff]

/-- No reference begins with a quote. -/
theorem reference?_quote (cs : List Char) : reference? ('\'' :: cs) = reference? cs :=
  reference?_cons_of_none rfl

theorem firstReference_quote : FirstReference ('\'' :: cs) name ↔ FirstReference cs name := by
  have hquote (other : List Char) : ¬ BeginsReference ('\'' :: cs) other :=
    fun hother => not_beginsReference_nil (beginsReference_append_quote (u := []).mp hother)
  rw [firstReference_cons_iff, or_iff_right (hquote name), and_iff_right hquote]

theorem reference?_doubleQuotes_append (hcast : '\'' ∉ cast) :
    reference? (doubleQuotes text ++ '\'' :: cast) = some name ↔
      FirstReference (text ++ '\'' :: cast) name := by
  induction text with
  | nil =>
    simp only [Sql.doubleQuotes_nil, List.nil_append]
    rw [reference?_quote, firstReference_quote, reference?_of_quote_notMem hcast]
  | cons c text ih =>
    by_cases hc : c = '\''
    · subst hc
      simp only [doubleQuotes_cons_quote, List.cons_append]
      rw [reference?_quote, reference?_quote, ih, firstReference_quote]
    · have hbegins (other : List Char) :
          BeginsReference (c :: (doubleQuotes text ++ '\'' :: cast)) other ↔
            BeginsReference (c :: (text ++ '\'' :: cast)) other := by
        have h := beginsReference_doubleQuotes_append (c :: text) cast other
        rwa [doubleQuotes_cons_of_ne hc] at h
      have hquoted := quotedReference?_doubleQuotes_append (c :: text) hcast
      rw [doubleQuotes_cons_of_ne hc, List.cons_append] at hquoted ⊢
      rw [reference?_cons_eq_some_iff hquoted, ih, List.cons_append, firstReference_cons_iff]
      simp only [hbegins]

end

/-! ## Defaults -/

/-- Whatever column of whatever table has this default, no sequence has to be made before it, and
the column is made again with the default as it is. Numbered columns do without a default. -/
def IsKept (default : String) : Prop :=
  ∀ (table : String) (sequences : List SequenceEntry) (e : ColumnEntry),
    e.autoIncrement = false → e.defaultValue = some default →
      sequenceBefore? table sequences e = none ∧
        recreateColumn table sequences e = { plainColumn e with defaultValue := some default }

theorem isKept_iff {default : String} : IsKept default ↔ sequenceReference? default = none := by
  constructor
  · intro hkept
    refine Option.eq_none_iff_forall_ne_some.mpr fun sequence hsequence => ?_
    let e : ColumnEntry := { (Inhabited.default : ColumnEntry) with defaultValue := some default }
    have hmade : sequenceBefore? "" [] e = some { name := sequence } :=
      sequenceBefore?_eq_some.mpr
        ⟨rfl, sequence, ⟨default, rfl, hsequence⟩, .inl ⟨rfl, rfl⟩⟩
    rw [(hkept "" [] e rfl rfl).1] at hmade
    cases hmade
  · intro hnone table sequences e hauto hdefault
    have hunused : entrySequenceUse table sequences e = .unused := by
      simp only [entrySequenceUse, hauto, hdefault, sequenceUse, hnone]
    simp [sequenceBefore?, recreateColumn, hunused, hauto, hdefault]

/-- A text whose leftmost reference names a sequence. -/
def RefersTo (cs : List Char) (sequence : String) : Prop :=
  ∃ written, FirstReference cs written ∧ unqualified written = sequence.toList ∧ sequence ≠ ""

variable {text cast : String}

theorem sequenceReference?_literal (hcast : '\'' ∉ cast.toList) {sequence : String} :
    sequenceReference? (literal text ++ cast) = some sequence ↔
      RefersTo (text.toList ++ '\'' :: cast.toList) sequence := by
  have htext : (literal text ++ cast).toList =
      '\'' :: (doubleQuotes text.toList ++ '\'' :: cast.toList) := by
    rw [String.toList_append, toList_literal]
    simp
  rw [sequenceReference?, htext, reference?_quote, Option.bind_eq_some_iff, RefersTo]
  refine exists_congr fun written => and_congr (reference?_doubleQuotes_append hcast) ?_
  cases hwritten : unqualified written with
  | nil => exact iff_of_false nofun fun ⟨hnil, hne⟩ => hne (String.toList_eq_nil_iff.mp hnil.symm)
  | cons c cs =>
    constructor
    · rintro ⟨⟩
      simp
    · rintro ⟨hcs, _⟩
      change some (String.ofList (c :: cs)) = some sequence
      rw [hcs, String.ofList_toList]

/-- A literal, with or without a cast, draws from no sequence exactly where neither the text
between its quotes nor the cast refers to one, and exactly there the default is kept. -/
theorem literal_draws_from_no_sequence_iff (hcast : '\'' ∉ cast.toList) :
    (sequenceReference? (literal text ++ cast) = none ↔
      ∀ sequence, ¬ RefersTo (text.toList ++ '\'' :: cast.toList) sequence) ∧
    (IsKept (literal text ++ cast) ↔
      ∀ sequence, ¬ RefersTo (text.toList ++ '\'' :: cast.toList) sequence) := by
  have hnone : sequenceReference? (literal text ++ cast) = none ↔
      ∀ sequence, ¬ RefersTo (text.toList ++ '\'' :: cast.toList) sequence := by
    simp only [Option.eq_none_iff_forall_ne_some, ne_eq, sequenceReference?_literal hcast]
  exact ⟨hnone, isKept_iff.trans hnone⟩

/-- A call of `nextval` between the quotes of a literal is not one. -/
theorem literal_draws_from_no_sequence_call :
    let default := literal "it's nextval('page') or pages.nextvals" ++ "::text"
    '\'' ∉ "::text".toList ∧ sequenceReference? default = none ∧ IsKept default := by
  intro default
  have hcast : '\'' ∉ "::text".toList := by decide
  have hnone : sequenceReference? default = none := by decide +kernel
  have hiff :=
    @literal_draws_from_no_sequence_iff "it's nextval('page') or pages.nextvals" "::text" hcast
  exact ⟨hcast, hnone, hiff.2.mpr (hiff.1.mp hnone)⟩

/-- A file name that ends in `.nextval` is taken for a sequence, which is made before the table. -/
theorem literal_draws_from_page :
    let e : ColumnEntry :=
      { table := "articles", column := "link", dataType := "varchar(40)",
        defaultValue := some (literal "page.nextval") }
    sequenceReference? (literal "page.nextval") = some "page" ∧
      recreateColumns "articles" [e] [] =
        [.createSequence { name := "page" },
          .createTable (recreateTable "articles" [e] [])] := by
  decide +kernel

end SchemaMigration.Catalog
