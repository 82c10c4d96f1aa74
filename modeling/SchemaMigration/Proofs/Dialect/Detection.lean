import SchemaMigration.Dialect.Detection
import SchemaMigration.Proofs.Text.LetterCase

/-!
# Letter case in what a server says of itself

A dialect is told from words in lower case, so letter case makes no difference to the product
name, to the driver name and to the scheme of a URL. It does to the marker of a driver URL,
which is looked for letter by letter: where it is written in other letters it is itself taken
for the scheme, and the URL says nothing. So the case of a URL counts exactly where it is the
case of its marker and where the URL decides.
-/

namespace SchemaMigration.Dialect

open Text

/-! ## What is lowered -/

/-- The same facts in lower case. Facts that differ in letter case only are lowered to the
same. -/
def ServerFacts.lowered (facts : ServerFacts) : ServerFacts where
  productName := facts.productName.map lower
  url := facts.url.map lower
  driverName := facts.driverName.map lower

/-- The facts without the URL. -/
def ServerFacts.withoutUrl (facts : ServerFacts) : ServerFacts :=
  { facts with url := none }

/-- A URL that starts with the marker of a driver URL. -/
def IsMarked (url : String) : Prop :=
  "jdbc:".toList <+: trim url.toList

instance : DecidablePred IsMarked :=
  fun url => inferInstanceAs (Decidable ("jdbc:".toList <+: trim url.toList))

/-- The URL starts with the marker, but not in small letters. -/
def ServerFacts.MisspellsMarker (facts : ServerFacts) : Prop :=
  ∃ url ∈ facts.url, IsMarked (lower url) ∧ ¬IsMarked url

instance (facts : ServerFacts) : Decidable facts.MisspellsMarker :=
  match hurl : facts.url with
  | none => isFalse (by simp [ServerFacts.MisspellsMarker, hurl])
  | some url =>
    decidable_of_iff (IsMarked (lower url) ∧ ¬IsMarked url)
      (by simp [ServerFacts.MisspellsMarker, hurl])

/-! ## Texts -/

theorem ofText?_lower (text : String) : ofText? (lower text) = ofText? text := by
  rw [ofText?, ofText?, tokens, tokens, lower_lower]

/-- Product and driver names are read without regard to letter case. -/
theorem bind_ofText?_map_lower (text : Option String) :
    (text.map lower).bind ofText? = text.bind ofText? := by
  cases text with
  | none => rfl
  | some text => rw [Option.map_some, Option.bind_some, Option.bind_some, ofText?_lower]

/-! ## Schemes -/

/-- What stands before the first colon. -/
def beforeColon (cs : List Char) : List Char :=
  cs.takeWhile (· != ':')

theorem beforeColon_map_toLower (cs : List Char) :
    beforeColon (cs.map Char.toLower) = (beforeColon cs).map Char.toLower := by
  have hcolon : (fun c : Char => c != ':') ∘ Char.toLower = fun c => c != ':' := by
    funext c
    rw [Function.comp_apply, Bool.eq_iff_iff, bne_iff_ne, bne_iff_ne, ne_eq, ne_eq,
      toLower_eq_iff (by decide)]
  rw [beforeColon, beforeColon, List.takeWhile_map, hcolon]

theorem trim_lower (url : String) :
    trim (lower url).toList = (trim url.toList).map Char.toLower := by
  rw [toList_lower, trim_map_toLower]

theorem urlScheme_of_isMarked {url : String} (hurl : IsMarked url) :
    urlScheme url = String.ofList (beforeColon ((trim url.toList).drop 5)) := by
  rw [urlScheme, withoutJdbc, if_pos (List.isPrefixOf_iff_prefix.mpr hurl)]
  rfl

theorem urlScheme_of_not_isMarked {url : String} (hurl : ¬IsMarked url) :
    urlScheme url = String.ofList (beforeColon (trim url.toList)) := by
  rw [urlScheme, withoutJdbc, if_neg (mt List.isPrefixOf_iff_prefix.mp hurl)]
  rfl

theorem IsMarked.lower {url : String} (hurl : IsMarked url) : IsMarked (lower url) := by
  rw [IsMarked, trim_lower]
  exact List.IsPrefix.map Char.toLower hurl

/-- Lowering a URL lowers its scheme, unless the marker is found in the lowered URL only. -/
theorem urlScheme_lower {url : String} (hurl : IsMarked (lower url) → IsMarked url) :
    urlScheme (lower url) = lower (urlScheme url) := by
  rw [lower.eq_def (urlScheme url)]
  by_cases hmarked : IsMarked url
  · rw [urlScheme_of_isMarked hmarked, urlScheme_of_isMarked hmarked.lower, trim_lower,
      ← List.map_drop, beforeColon_map_toLower, String.toList_ofList]
  · rw [urlScheme_of_not_isMarked hmarked, urlScheme_of_not_isMarked (mt hurl hmarked),
      trim_lower, beforeColon_map_toLower, String.toList_ofList]

/-- A marker that is not found is taken for the scheme. -/
theorem lower_urlScheme_of_misspelled {url : String} (hlower : IsMarked (lower url))
    (hurl : ¬IsMarked url) : lower (urlScheme url) = "jdbc" := by
  obtain ⟨rest, hrest⟩ := hlower
  rw [lower, urlScheme_of_not_isMarked hurl, String.toList_ofList, ← beforeColon_map_toLower,
    ← trim_lower, ← hrest]
  rfl

theorem ofText?_urlScheme_lower {url : String} (hurl : IsMarked (lower url) → IsMarked url) :
    ofText? (urlScheme (lower url)) = ofText? (urlScheme url) := by
  rw [urlScheme_lower hurl, ofText?_lower]

theorem ofText?_urlScheme_of_misspelled {url : String} (hlower : IsMarked (lower url))
    (hurl : ¬IsMarked url) : ofText? (urlScheme url) = none := by
  rw [← ofText?_lower, lower_urlScheme_of_misspelled hlower hurl]
  decide

/-! ## Detection -/

/-- The dialect that the URL names. -/
def ServerFacts.urlDialect? (facts : ServerFacts) : Option Dialect :=
  facts.url.bind fun url => ofText? (urlScheme url)

theorem detect?_withoutUrl (facts : ServerFacts) :
    detect? facts.withoutUrl =
      (facts.productName.bind ofText?).or (facts.driverName.bind ofText?) := by
  simp [detect?, ServerFacts.withoutUrl]

theorem detect?_withoutUrl_lowered (facts : ServerFacts) :
    detect? facts.lowered.withoutUrl = detect? facts.withoutUrl := by
  simp only [detect?_withoutUrl, ServerFacts.lowered, bind_ofText?_map_lower]

theorem detect?_lowered (facts : ServerFacts) :
    detect? facts.lowered =
      ((facts.productName.bind ofText?).or facts.lowered.urlDialect?).or
        (facts.driverName.bind ofText?) := by
  simp only [detect?, ServerFacts.urlDialect?, ServerFacts.lowered, bind_ofText?_map_lower]

/-- A misspelled marker leaves the URL out of the detection, and nothing else about letter case
makes a difference to it. -/
theorem detect?_eq (facts : ServerFacts) :
    detect? facts =
      if facts.MisspellsMarker then detect? facts.lowered.withoutUrl
      else detect? facts.lowered := by
  split
  · next hmarker =>
    obtain ⟨url, hurl, hlower, hmarked⟩ := hmarker
    rw [Option.mem_def] at hurl
    rw [detect?_withoutUrl_lowered, detect?_withoutUrl, detect?, hurl, Option.bind_some,
      ofText?_urlScheme_of_misspelled hlower hmarked, Option.or_none]
  · next hmarker =>
    have hurl : facts.lowered.urlDialect? = facts.urlDialect? := by
      cases hfacts : facts.url with
      | none => simp [ServerFacts.urlDialect?, ServerFacts.lowered, hfacts]
      | some url =>
        have hread : IsMarked (lower url) → IsMarked url := fun hlower =>
          Decidable.not_not.mp fun hmarked => hmarker ⟨url, hfacts, hlower, hmarked⟩
        simp [ServerFacts.urlDialect?, ServerFacts.lowered, hfacts, ofText?_urlScheme_lower hread]
    rw [detect?_lowered, hurl]
    rfl

/-- Facts that differ in letter case only are told apart exactly where one of them misspells the
marker of its URL, the other does not, and the URL makes a difference to what is detected. -/
theorem detect?_eq_of_lowered_eq_iff {f g : ServerFacts} (hfg : f.lowered = g.lowered) :
    detect? f = detect? g ↔
      (f.MisspellsMarker ↔ g.MisspellsMarker) ∨ detect? f.withoutUrl = detect? f.lowered := by
  have hwithout : detect? f.withoutUrl = detect? f.lowered.withoutUrl :=
    (detect?_withoutUrl_lowered f).symm
  rw [hwithout, detect?_eq f, detect?_eq g, ← hfg]
  by_cases hf : f.MisspellsMarker <;> by_cases hg : g.MisspellsMarker <;>
    simp [hf, hg, eq_comm]

/-- The product name decides, however the marker is written; without it the marker does. -/
theorem detect?_eq_of_lowered_eq_iff_mysql :
    let mixed : ServerFacts := { productName := some "MariaDB", url := some "Jdbc:MySQL://db/app" }
    let small : ServerFacts := { productName := some "mariadb", url := some "jdbc:mysql://db/app" }
    (mixed.lowered = small.lowered ∧ detect? mixed = detect? small) ∧
    let nameless : ServerFacts := { mixed with productName := none }
    let smallNameless : ServerFacts := { small with productName := none }
    nameless.lowered = smallNameless.lowered ∧ detect? nameless ≠ detect? smallNameless := by
  intro mixed small
  have hsame : mixed.lowered = small.lowered := by decide +kernel
  refine ⟨⟨hsame, (detect?_eq_of_lowered_eq_iff hsame).mpr (.inr (by decide +kernel))⟩, ?_⟩
  intro nameless smallNameless
  have hnameless : nameless.lowered = smallNameless.lowered := by decide +kernel
  refine ⟨hnameless, mt (detect?_eq_of_lowered_eq_iff hnameless).mp ?_⟩
  decide +kernel

/-- A driver URL whose marker is in capital letters names no dialect, although the same URL in
small letters does. -/
theorem detect?_misses_capital_marker :
    ¬ ∀ f g : ServerFacts, f.lowered = g.lowered → detect? f = detect? g := by
  intro hdetect
  have hcapital := hdetect { url := some "JDBC:mysql://db/app" }
    { url := some "jdbc:mysql://db/app" } (by decide +kernel)
  exact absurd hcapital (by decide +kernel)

end SchemaMigration.Dialect
