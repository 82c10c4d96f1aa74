import SchemaMigration.Proofs.Sql.Layout
import SchemaMigration.Sql.Literal

/-!
# Reading literals

Doubling the quotes of a text and laying the text out may be done in either order. Between
quotes a text with doubled quotes reads as the text itself. A text that stands between quotes
as it is reads as itself exactly where it has no quotes in it.
-/

namespace SchemaMigration.Sql

open Text

/-! ## Literals -/

theorem toList_literal (text : String) :
    (literal text).toList = '\'' :: doubleQuotes text.toList ++ ['\''] := by
  simp [literal]

/-- A literal starts and ends in a quote. -/
theorem literal_isEdged (text : String) : IsEdged (literal text).toList := by
  have hquote : isBlank '\'' = false := by decide
  rw [toList_literal]
  refine ⟨by simp, by simpa using hquote, ?_⟩
  rw [List.getLast?_concat]
  simpa using hquote

/-- The layout of a literal ends in a quote, too. -/
theorem getLast?_normalizeChars_literal (text : String) :
    (normalizeChars (literal text).toList).getLast? = some '\'' := by
  obtain ⟨before, after, _, hafter, hf⟩ := normalizeChars_around (q := '\'') (by decide)
  rw [toList_literal, hf, hafter, List.getLast?_concat]

theorem normalizeChars_literal_isEdged (text : String) :
    IsEdged (normalizeChars (literal text).toList) where
  nonempty := by
    intro hnil
    have hlast := getLast?_normalizeChars_literal text
    rw [hnil] at hlast
    cases hlast
  head := (normalizeChars_isLaidOut _).head
  last := (normalizeChars_isLaidOut _).last

/-! ## Doubled quotes in layout -/

@[simp] theorem doubleQuotes_nil : doubleQuotes [] = [] := rfl

theorem doubleQuotes_cons_of_ne {c : Char} (hc : c ≠ '\'') (cs : List Char) :
    doubleQuotes (c :: cs) = c :: doubleQuotes cs := by
  rw [doubleQuotes, if_neg hc]

theorem doubleQuotes_cons_quote (cs : List Char) :
    doubleQuotes ('\'' :: cs) = '\'' :: '\'' :: doubleQuotes cs := by
  rw [doubleQuotes, if_pos rfl]

theorem doubleQuotes_eq_nil_iff {cs : List Char} : doubleQuotes cs = [] ↔ cs = [] := by
  cases cs with
  | nil => simp
  | cons c cs => by_cases hc : c = '\'' <;> simp [doubleQuotes, hc]

theorem head?_doubleQuotes (cs : List Char) : (doubleQuotes cs).head? = cs.head? := by
  cases cs with
  | nil => rfl
  | cons c cs => by_cases hc : c = '\'' <;> simp [doubleQuotes, hc]

theorem getLast?_doubleQuotes (cs : List Char) : (doubleQuotes cs).getLast? = cs.getLast? := by
  rcases List.eq_nil_or_concat' cs with rfl | ⟨cs, c, rfl⟩
  · rfl
  · by_cases hc : c = '\'' <;> simp [doubleQuotes_append, doubleQuotes, hc]

theorem IsEdged.doubleQuotes {cs : List Char} (hcs : IsEdged cs) : IsEdged (doubleQuotes cs) where
  nonempty := mt doubleQuotes_eq_nil_iff.mp hcs.nonempty
  head := by rw [head?_doubleQuotes]; exact hcs.head
  last := by rw [getLast?_doubleQuotes]; exact hcs.last

theorem splitOnP_doubleQuotes {p : Char → Bool} (hp : p '\'' = false) (cs : List Char) :
    (doubleQuotes cs).splitOnP p = (cs.splitOnP p).map doubleQuotes := by
  induction cs with
  | nil => simp
  | cons c cs ih =>
    obtain ⟨first, rest, hcs⟩ := List.exists_cons_of_ne_nil (List.splitOnP_ne_nil p cs)
    by_cases hc : c = '\''
    · subst hc
      simp [doubleQuotes_cons_quote, List.splitOnP_cons_eq_if_modifyHead, hp, ih, hcs]
    · cases hpc : p c <;>
        simp [doubleQuotes_cons_of_ne hc, List.splitOnP_cons_eq_if_modifyHead, hpc, ih, hcs]

theorem doubleQuotes_intercalate {s : Char} (hs : s ≠ '\'') (xs : List (List Char)) :
    doubleQuotes ([s].intercalate xs) = [s].intercalate (xs.map doubleQuotes) := by
  induction xs with
  | nil => rfl
  | cons x xs ih =>
    cases xs with
    | nil => simp
    | cons y ys =>
      rw [List.intercalate_cons_cons, List.append_assoc, doubleQuotes_append, List.singleton_append,
        doubleQuotes_cons_of_ne hs, ih]
      simp [List.intercalate_cons_cons]

theorem piecewise_doubleQuotes {f : List Char → List Char} {p : Char → Bool} {s : Char}
    (hf : ∀ cs, f (doubleQuotes cs) = doubleQuotes (f cs)) (hp : p '\'' = false) (hs : s ≠ '\'')
    (cs : List Char) : piecewise f p s (doubleQuotes cs) = doubleQuotes (piecewise f p s cs) := by
  have hkept (xs : List (List Char)) :
      ((xs.map doubleQuotes).filter fun x => !x.isEmpty) =
        (xs.filter fun x => !x.isEmpty).map doubleQuotes := by
    rw [List.filter_map]
    congr 2
    funext x
    rw [Function.comp_apply, Bool.eq_iff_iff]
    simp [doubleQuotes_eq_nil_iff]
  have hmap (xs : List (List Char)) :
      (xs.map doubleQuotes).map f = (xs.map f).map doubleQuotes := by
    rw [List.map_map, List.map_map]
    exact List.map_congr_left fun x _ => hf x
  rw [piecewise, splitOnP_doubleQuotes hp, hmap, hkept, ← doubleQuotes_intercalate hs, piecewise]

/-- A quote is no blank, so it makes no difference whether quotes are doubled before a text is
laid out or afterwards. -/
theorem normalizeChars_doubleQuotes (cs : List Char) :
    normalizeChars (doubleQuotes cs) = doubleQuotes (normalizeChars cs) := by
  have hline (line : List Char) :
      normalizeLine (doubleQuotes line) = doubleQuotes (normalizeLine line) := by
    rw [normalizeLine_eq_piecewise]
    exact piecewise_doubleQuotes (f := id) (fun _ => rfl) (by decide) (by decide) line
  rw [normalizeChars_eq_piecewise]
  exact piecewise_doubleQuotes hline (by decide) (by decide) cs

/-! ## One literal -/

theorem readLiteral_cons_of_ne {c : Char} (hc : c ≠ '\'') (cs : List Char) :
    readLiteral (c :: cs) = (readLiteral cs).map fun r => (c :: r.1, r.2) := by
  rw [readLiteral] <;> simp [hc]

theorem readLiteral_closing {rest : List Char} (hrest : rest.head? ≠ some '\'') :
    readLiteral ('\'' :: rest) = some ([], rest) := by
  cases rest with
  | nil => rfl
  | cons c rest =>
    rw [readLiteral]
    simpa using hrest

/-- Between quotes, a text with doubled quotes reads as the text itself. -/
theorem readLiteral_doubleQuotes (cs : List Char) {rest : List Char}
    (hrest : rest.head? ≠ some '\'') :
    readLiteral (doubleQuotes cs ++ '\'' :: rest) = some (cs, rest) := by
  induction cs with
  | nil => exact readLiteral_closing hrest
  | cons c cs ih =>
    by_cases hc : c = '\''
    · subst hc
      rw [doubleQuotes_cons_quote, List.cons_append, List.cons_append, readLiteral, ih]
      rfl
    · rw [doubleQuotes_cons_of_ne hc, List.cons_append, readLiteral_cons_of_ne hc, ih]
      rfl

/-- What was read stands in the text with its quotes doubled. -/
theorem eq_of_readLiteral {cs : List Char} {r : List Char × List Char}
    (hcs : readLiteral cs = some r) : cs = doubleQuotes r.1 ++ '\'' :: r.2 := by
  fun_induction readLiteral cs generalizing r with
  | case1 => cases hcs
  | case2 cs ih =>
    obtain ⟨r', hr', rfl⟩ := Option.map_eq_some_iff.mp hcs
    rw [ih hr', doubleQuotes_cons_quote]
    rfl
  | case3 cs _ =>
    cases hcs
    rfl
  | case4 c cs _ hc ih =>
    obtain ⟨r', hr', rfl⟩ := Option.map_eq_some_iff.mp hcs
    rw [ih hr', doubleQuotes_cons_of_ne (by rintro rfl; exact hc rfl)]
    rfl

/-- The quotes of a text are too few to be doubled ones, so a text that is read between quotes
as it is has none. -/
theorem append_quote_ne (cs : List Char) {rest : List Char} (hrest : rest.head? ≠ some '\'')
    (n : Nat) (after : List Char) :
    cs ++ '\'' :: rest ≠ List.replicate (n + 1) '\'' ++ (doubleQuotes cs ++ '\'' :: after) := by
  induction cs generalizing n with
  | nil =>
    intro heq
    obtain rfl : rest = List.replicate n '\'' ++ '\'' :: after := by
      simpa [List.replicate_succ] using heq
    cases n <;> simp [List.replicate_succ] at hrest
  | cons c cs ih =>
    intro heq
    -- Every quote of the text has to make up for two, so the lead of the right side grows.
    rw [List.replicate_succ, List.cons_append, List.cons_append, List.cons.injEq] at heq
    obtain ⟨rfl, htail⟩ := heq
    refine ih (n + 1) (htail.trans ?_)
    rw [doubleQuotes_cons_quote, List.replicate_succ', List.replicate_succ']
    simp

theorem quote_notMem_of_readLiteral {cs rest after : List Char} (hrest : rest.head? ≠ some '\'')
    (hread : readLiteral (cs ++ '\'' :: rest) = some (cs, after)) : '\'' ∉ cs := by
  have heq := eq_of_readLiteral hread
  clear hread
  induction cs with
  | nil => simp
  | cons c cs ih =>
    by_cases hc : c = '\''
    · subst hc
      rw [doubleQuotes_cons_quote, List.cons_append, List.cons_append, List.cons.injEq] at heq
      exact absurd heq.2 (append_quote_ne cs hrest 0 after)
    · rw [doubleQuotes_cons_of_ne hc, List.cons_append, List.cons_append, List.cons.injEq] at heq
      rw [List.mem_cons, not_or]
      exact ⟨Ne.symm hc, ih heq.2⟩

/-! ## Whole statements -/

/-- What a text is read as, from left to right: literals, and the characters outside of them. -/
inductive Lexeme where
  | char (c : Char)
  | literal (text : String)
  deriving DecidableEq

/-- The first lexeme of a text and what follows it. -/
def lexeme? : List Char → Option (Lexeme × List Char)
  | [] => none
  | c :: cs =>
    if c = '\'' then (readLiteral cs).map fun r => (.literal (String.ofList r.1), r.2)
    else some (.char c, cs)

/-- What follows some lexemes in a text that is read as starting with them. -/
def afterLexemes? : List Lexeme → List Char → Option (List Char)
  | [], cs => some cs
  | l :: ls, cs => (lexeme? cs).bind fun r => if r.1 = l then afterLexemes? ls r.2 else none

/-- A text is read as these lexemes and nothing after them. -/
def ReadsAs (sql : String) (ls : List Lexeme) : Prop :=
  afterLexemes? ls sql.toList = some []

/-- A text is read as these lexemes and whatever comes after them. -/
def OpensAs (sql : String) (ls : List Lexeme) : Prop :=
  ∃ rest, afterLexemes? ls sql.toList = some rest

instance (sql : String) (ls : List Lexeme) : Decidable (ReadsAs sql ls) :=
  inferInstanceAs (Decidable (_ = _))

/-- A text outside of literals. -/
def code (text : String) : List Lexeme :=
  text.toList.map .char

theorem afterLexemes?_code {text : String} (htext : '\'' ∉ text.toList) (ls : List Lexeme)
    (rest : List Char) :
    afterLexemes? (code text ++ ls) (text.toList ++ rest) = afterLexemes? ls rest := by
  rw [code]
  generalize text.toList = cs at htext ⊢
  induction cs with
  | nil => rfl
  | cons c cs ih =>
    rw [List.mem_cons, not_or] at htext
    rw [List.map_cons, List.cons_append, List.cons_append, afterLexemes?, lexeme?,
      if_neg (Ne.symm htext.1), Option.bind_some, if_pos rfl, ih htext.2]

theorem afterLexemes?_code_self {text : String} (htext : '\'' ∉ text.toList) (rest : List Char) :
    afterLexemes? (code text) (text.toList ++ rest) = some rest := by
  rw [← List.append_nil (code text), afterLexemes?_code htext, afterLexemes?]

/-- The literal of a text is read as that text. -/
theorem afterLexemes?_literal (text : String) (ls : List Lexeme) {rest : List Char}
    (hrest : rest.head? ≠ some '\'') :
    afterLexemes? (.literal text :: ls) ((literal text).toList ++ rest) =
      afterLexemes? ls rest := by
  rw [toList_literal, List.append_assoc, List.cons_append, List.singleton_append, afterLexemes?,
    lexeme?, if_pos rfl, readLiteral_doubleQuotes _ hrest]
  simp

/-- A text with quotes around it has to be without quotes to be read as that text. -/
theorem afterLexemes?_quoted (text : String) (ls : List Lexeme) {rest : List Char}
    (hrest : rest.head? ≠ some '\'') :
    afterLexemes? (.literal text :: ls) ('\'' :: (text.toList ++ '\'' :: rest)) =
      if '\'' ∈ text.toList then none else afterLexemes? ls rest := by
  split
  · next hquote =>
    rw [afterLexemes?, lexeme?, if_pos rfl, Option.bind_eq_none_iff]
    intro r hr
    obtain ⟨⟨cs, after⟩, hread, rfl⟩ := Option.map_eq_some_iff.mp hr
    refine if_neg fun hsame => ?_
    obtain rfl : text = String.ofList cs := by simpa using hsame.symm
    rw [String.toList_ofList] at hquote hread
    exact quote_notMem_of_readLiteral hrest hread hquote
  · next hquote =>
    have hself : '\'' :: (text.toList ++ '\'' :: rest) = (literal text).toList ++ rest := by
      rw [toList_literal, doubleQuotes_eq_self hquote]
      simp
    rw [hself, afterLexemes?_literal text ls hrest]

end SchemaMigration.Sql
