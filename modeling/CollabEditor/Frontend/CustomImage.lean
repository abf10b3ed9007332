import CollabEditor.Frontend.CodeUnits

/-! # Custom images

The tokenizer and the renderer of the markdown extension for images with a scale, and a reader
of the start tag of an HTML element, which tells what a browser makes of the output.
-/

namespace CollabEditor.Frontend

open Foundation

/-! ## The tokenizer -/

/-- `[^|\]]`. -/
def isSegmentUnit (u : Fin (2 ^ 16)) : Bool := u ≠ unit '|' && u ≠ unit ']'

/-- A literal of a pattern: what follows it. -/
def afterLiteral (literal : String) (text : Text) : Option Text :=
  if units literal <+: text then some (text.drop (units literal).length) else none

/-- A class with `+`: the text it takes, and what follows. The patterns here never continue
with a unit of the class, so that it takes as much as it can. -/
def takeSome (inClass : Fin (2 ^ 16) → Bool) (text : Text) : Option (Text × Text) :=
  if text.takeWhile inClass = [] then none
  else some (text.takeWhile inClass, text.dropWhile inClass)

/-- `(?:\.[0-9]+)?`: the digits of the fraction. -/
def takeFraction (text : Text) : Text × Text :=
  (((afterLiteral "." text).bind (takeSome isDigit)).getD ([], text))

/-- A fraction with its point; an empty one is absent. -/
def fractionText (fraction : Text) : Text := if fraction = [] then [] else units "." ++ fraction

/-- The groups of the pattern. -/
structure ImageMatch where
  url : Text
  alt : Text
  whole : Text
  fraction : Text
deriving DecidableEq, Repr

/-- The third group. -/
def ImageMatch.scaleRaw (groups : ImageMatch) : Text :=
  groups.whole ++ fractionText groups.fraction

/-- The text that is matched. -/
def ImageMatch.raw (groups : ImageMatch) : Text :=
  units "![[" ++ groups.url ++ units "|" ++ groups.alt ++ units "|" ++ groups.scaleRaw ++ units "]]"

/-- The regular expression of the tokenizer. -/
def matchImage (src : Text) : Option ImageMatch := do
  let rest ← afterLiteral "![[" src
  let (url, rest) ← takeSome isSegmentUnit rest
  let rest ← afterLiteral "|" rest
  let (alt, rest) ← takeSome isSegmentUnit rest
  let rest ← afterLiteral "|" rest
  let (whole, rest) ← takeSome isDigit rest
  let (fraction, rest) := takeFraction rest
  let _ ← afterLiteral "]]" rest
  return ⟨url, alt, whole, fraction⟩

structure CustomImageToken where
  raw : Text
  url : Text
  alt : Text
  scale : ℚ
deriving DecidableEq

/-- `tokenizer`. -/
def tokenizer (src : Text) : Option CustomImageToken :=
  match matchImage src with
  | none => none
  | some groups =>
      match toNumber (decimalValue groups.whole groups.fraction) with
      | none => none
      | some scale =>
          if scale ≤ 0 then none
          else some ⟨groups.raw, trim groups.url, trim groups.alt, scale⟩

/-! ## The renderer -/

def escapeHtmlAttr (value : Text) : Text :=
  replaceAll '>' "&gt;" <| replaceAll '<' "&lt;" <| replaceAll '\x22' "&quot;" <|
    replaceAll '&' "&amp;" value

/-- `renderer`. -/
def renderer (token : CustomImageToken) : Text :=
  units "<img src=\"" ++ escapeHtmlAttr token.url ++
    units "\" alt=\"" ++ escapeHtmlAttr token.alt ++
    units "\" loading=\"lazy\" style=\"width:" ++ percentString token.scale ++
    units "%;height:auto;\" />"

/-! ## Reading HTML -/

/-- A start tag with quoted attributes. -/
structure HtmlElement where
  name : Text
  attributes : List (Text × Text)
deriving DecidableEq, Repr

/-- ASCII white space of HTML. -/
def isHtmlSpace (u : Fin (2 ^ 16)) : Bool :=
  u = unit '\t' || u = unit '\n' || u = unit '\x0c' || u = unit '\r' || u = unit ' '

/-- A unit that goes on with the name of a tag or of an attribute. -/
def isNameUnit (u : Fin (2 ^ 16)) : Bool :=
  !isHtmlSpace u && u ≠ unit '/' && u ≠ unit '>' && u ≠ unit '=' && u ≠ unit '\x22' &&
    u ≠ unit '<'

/-- The attributes and the end of a tag, with what follows it. A value in double quotes goes up
to the next double quote, whatever it contains. -/
def readAttributes : ℕ → Text → Option (List (Text × Text) × Text)
  | 0, _ => none
  | fuel + 1, text =>
      let text := text.dropWhile isHtmlSpace
      match afterLiteral ">" text, afterLiteral "/>" text with
      | some rest, _ => some ([], rest)
      | none, some rest => some ([], rest)
      | none, none => do
          let (name, rest) ← takeSome isNameUnit text
          let rest ← afterLiteral "=\"" rest
          let value := rest.takeWhile (· ≠ unit '\x22')
          let rest ← afterLiteral "\"" (rest.dropWhile (· ≠ unit '\x22'))
          let (attributes, rest) ← readAttributes fuel rest
          return ((name, value) :: attributes, rest)

/-- The element a text starts with, and what follows its tag. -/
def readElement (text : Text) : Option (HtmlElement × Text) := do
  let rest ← afterLiteral "<" text
  let (name, rest) ← takeSome isNameUnit rest
  let (attributes, rest) ← readAttributes rest.length rest
  return (⟨name, attributes⟩, rest)

/-- The character references of an attribute value. -/
def decodeReferences : ℕ → Text → Text
  | 0, _ => []
  | _ + 1, [] => []
  | fuel + 1, u :: rest =>
      match afterLiteral "&quot;" (u :: rest), afterLiteral "&lt;" (u :: rest),
        afterLiteral "&gt;" (u :: rest), afterLiteral "&amp;" (u :: rest) with
      | some rest, _, _, _ => unit '\x22' :: decodeReferences fuel rest
      | none, some rest, _, _ => unit '<' :: decodeReferences fuel rest
      | none, none, some rest, _ => unit '>' :: decodeReferences fuel rest
      | none, none, none, some rest => unit '&' :: decodeReferences fuel rest
      | none, none, none, none => u :: decodeReferences fuel rest

/-- The value an attribute has. -/
def decodeValue (value : Text) : Text := decodeReferences value.length value

/-! ## What is matched -/

/-- The shape of the groups. -/
structure ImageMatch.Grammatical (groups : ImageMatch) : Prop where
  url : groups.url ≠ [] ∧ ∀ u ∈ groups.url, u ≠ unit '|' ∧ u ≠ unit ']'
  alt : groups.alt ≠ [] ∧ ∀ u ∈ groups.alt, u ≠ unit '|' ∧ u ≠ unit ']'
  whole : groups.whole ≠ [] ∧ ∀ u ∈ groups.whole, isDigit u = true
  fraction : ∀ u ∈ groups.fraction, isDigit u = true

theorem afterLiteral_eq_some_iff {literal : String} {text rest : Text} :
    afterLiteral literal text = some rest ↔ text = units literal ++ rest := by
  unfold afterLiteral
  constructor
  · intro hafter
    obtain ⟨⟨tail, rfl⟩, hrest⟩ := Option.ite_none_right_eq_some.mp hafter
    rw [List.drop_left] at hrest
    rw [Option.some.inj hrest]
  · rintro rfl
    rw [if_pos (List.prefix_append _ _), List.drop_left]

theorem takeSome_eq_some_iff {inClass : Fin (2 ^ 16) → Bool} {text front rest : Text} :
    takeSome inClass text = some (front, rest) ↔
      text = front ++ rest ∧ front ≠ [] ∧ (∀ u ∈ front, inClass u = true) ∧
        ∀ u, rest.head? = some u → inClass u = false := by
  unfold takeSome
  constructor
  · intro htake
    obtain ⟨hnonempty, hpair⟩ := Option.ite_none_left_eq_some.mp htake
    cases hpair
    refine ⟨List.takeWhile_append_dropWhile.symm, hnonempty,
      List.all_eq_true.mp List.all_takeWhile, fun u hu => ?_⟩
    have hstop := List.head?_dropWhile_not inClass text
    rwa [hu] at hstop
  · rintro ⟨rfl, hnonempty, hall, hstop⟩
    have hrest : rest.takeWhile inClass = [] ∧ rest.dropWhile inClass = rest := by
      cases rest with
      | nil => exact ⟨rfl, rfl⟩
      | cons u rest =>
          have hu := hstop u rfl
          simp [hu]
    rw [List.takeWhile_append_of_pos hall, List.dropWhile_append_of_pos hall, hrest.1, hrest.2,
      List.append_nil, if_neg hnonempty]

theorem takeFraction_text {text fraction rest : Text}
    (htake : takeFraction text = (fraction, rest)) :
    text = fractionText fraction ++ rest ∧ ∀ u ∈ fraction, isDigit u = true := by
  unfold takeFraction at htake
  cases hfraction : (afterLiteral "." text).bind (takeSome isDigit) with
  | none =>
      rw [hfraction] at htake
      cases htake
      exact ⟨rfl, nofun⟩
  | some taken =>
      rw [hfraction] at htake
      cases htake
      obtain ⟨after, hafter, htaken⟩ := Option.bind_eq_some_iff.mp hfraction
      obtain ⟨rfl, hnonempty, hdigits, -⟩ := takeSome_eq_some_iff.mp htaken
      refine ⟨?_, hdigits⟩
      rw [afterLiteral_eq_some_iff.mp hafter, fractionText, if_neg hnonempty, List.append_assoc]

/-- Before the closing brackets the fraction is found, or found to be absent. -/
theorem takeFraction_closing {fraction rest : Text} (hdigits : ∀ u ∈ fraction, isDigit u = true) :
    takeFraction (fractionText fraction ++ (units "]]" ++ rest)) =
      (fraction, units "]]" ++ rest) := by
  have hclosing : ∀ u, (units "]]" ++ rest).head? = some u → isDigit u = false := by
    intro u hu
    cases hu
    decide
  unfold takeFraction fractionText
  split
  next hempty =>
    subst hempty
    have hpoint : afterLiteral "." (units "]]" ++ rest) = none := by
      rw [Option.eq_none_iff_forall_ne_some]
      intro after hafter
      have hhead := congrArg List.head? (afterLiteral_eq_some_iff.mp hafter)
      have hunits : unit ']' = unit '.' := Option.some.inj hhead
      revert hunits
      decide
    simp [hpoint]
  next hnonempty =>
    have hafter : afterLiteral "." (units "." ++ fraction ++ (units "]]" ++ rest)) =
        some (fraction ++ (units "]]" ++ rest)) :=
      afterLiteral_eq_some_iff.mpr (List.append_assoc _ _ _)
    have htake : takeSome isDigit (fraction ++ (units "]]" ++ rest)) =
        some (fraction, units "]]" ++ rest) :=
      takeSome_eq_some_iff.mpr ⟨rfl, hnonempty, hdigits, hclosing⟩
    rw [hafter, Option.bind_some, htake]
    rfl

theorem isSegmentUnit_iff {u : Fin (2 ^ 16)} :
    isSegmentUnit u = true ↔ u ≠ unit '|' ∧ u ≠ unit ']' := by
  simp [isSegmentUnit]

theorem segment_stop (rest : Text) :
    ∀ u, (units "|" ++ rest).head? = some u → isSegmentUnit u = false := by
  intro u hu
  cases hu
  decide

/-- The matcher finds the texts of the grammar, each with its own groups. -/
theorem matchImage_eq_some_iff {src : Text} {groups : ImageMatch} :
    matchImage src = some groups ↔ groups.Grammatical ∧ groups.raw <+: src := by
  constructor
  · intro hmatch
    simp only [matchImage, Option.bind_eq_bind, Option.bind_eq_some_iff] at hmatch
    obtain ⟨afterOpen, hopen, ⟨url, afterUrl⟩, hurl, afterBar, hbar, ⟨alt, afterAlt⟩, halt,
      afterSecond, hsecond, ⟨whole, afterWhole⟩, hwhole, rest, hclose, hgroups⟩ := hmatch
    dsimp only at hbar hsecond hclose hgroups
    rcases htaken : takeFraction afterWhole with ⟨fraction, afterFraction⟩
    rw [htaken] at hclose hgroups
    dsimp only at hclose hgroups
    cases hgroups
    obtain ⟨hafterOpen, hurlNonempty, hurlUnits, -⟩ := takeSome_eq_some_iff.mp hurl
    obtain ⟨hafterBar, haltNonempty, haltUnits, -⟩ := takeSome_eq_some_iff.mp halt
    obtain ⟨hafterSecond, hwholeNonempty, hwholeUnits, -⟩ := takeSome_eq_some_iff.mp hwhole
    obtain ⟨hafterWhole, hfraction⟩ := takeFraction_text htaken
    refine ⟨⟨⟨hurlNonempty, fun u hu => isSegmentUnit_iff.mp (hurlUnits u hu)⟩,
      ⟨haltNonempty, fun u hu => isSegmentUnit_iff.mp (haltUnits u hu)⟩,
      ⟨hwholeNonempty, hwholeUnits⟩, hfraction⟩, rest, ?_⟩
    rw [afterLiteral_eq_some_iff.mp hopen, hafterOpen, afterLiteral_eq_some_iff.mp hbar,
      hafterBar, afterLiteral_eq_some_iff.mp hsecond, hafterSecond, hafterWhole,
      afterLiteral_eq_some_iff.mp hclose]
    simp [ImageMatch.raw, ImageMatch.scaleRaw]
  · rintro ⟨hgrammar, rest, rfl⟩
    obtain ⟨url, alt, whole, fraction⟩ := groups
    obtain ⟨⟨hurlNonempty, hurlUnits⟩, ⟨haltNonempty, haltUnits⟩, ⟨hwholeNonempty, hwholeUnits⟩,
      hfraction⟩ := hgrammar
    have hsplit : ImageMatch.raw ⟨url, alt, whole, fraction⟩ ++ rest =
        units "![[" ++ (url ++ (units "|" ++ (alt ++ (units "|" ++ (whole ++
          (fractionText fraction ++ (units "]]" ++ rest))))))) := by
      simp [ImageMatch.raw, ImageMatch.scaleRaw]
    have hwholeStop : ∀ u, (fractionText fraction ++ (units "]]" ++ rest)).head? = some u →
        isDigit u = false := by
      intro u hu
      unfold fractionText at hu
      split at hu
      next =>
        cases hu
        decide
      next =>
        cases hu
        decide
    rw [hsplit]
    simp only [matchImage, Option.bind_eq_bind]
    rw [afterLiteral_eq_some_iff.mpr rfl, Option.bind_some,
      takeSome_eq_some_iff.mpr ⟨rfl, hurlNonempty,
        fun u hu => isSegmentUnit_iff.mpr (hurlUnits u hu), segment_stop _⟩, Option.bind_some]
    dsimp only
    rw [afterLiteral_eq_some_iff.mpr rfl, Option.bind_some,
      takeSome_eq_some_iff.mpr ⟨rfl, haltNonempty,
        fun u hu => isSegmentUnit_iff.mpr (haltUnits u hu), segment_stop _⟩, Option.bind_some]
    dsimp only
    rw [afterLiteral_eq_some_iff.mpr rfl, Option.bind_some,
      takeSome_eq_some_iff.mpr ⟨rfl, hwholeNonempty, hwholeUnits, hwholeStop⟩, Option.bind_some]
    dsimp only
    rw [takeFraction_closing hfraction, afterLiteral_eq_some_iff.mpr rfl, Option.bind_some]
    rfl

/-- The scale denotes a number that is positive and not infinite. -/
def ImageMatch.FinitePositive (groups : ImageMatch) : Prop :=
  ∃ scale, toNumber (decimalValue groups.whole groups.fraction) = some scale ∧ 0 < scale

theorem toNumber_finitePositive_iff {value : ℚ} (hvalue : 0 ≤ value) :
    (∃ scale, toNumber value = some scale ∧ 0 < scale) ↔
      (2 : ℚ) ^ (-1075 : ℤ) < value ∧ value < 2 ^ (1024 : ℤ) - 2 ^ (970 : ℤ) := by
  rcases eq_or_lt_of_le hvalue with rfl | hpos
  · -- zero stays zero
    have hunit : (0 : ℚ) < 2 ^ (-1075 : ℤ) := zpow_pos (by norm_num) _
    refine iff_of_false ?_ fun hbounds => absurd hbounds.1 (not_lt.mpr hunit.le)
    rintro ⟨scale, hscale, hpositive⟩
    exact absurd (FloatFormat.round_zero hscale) hpositive.ne'
  · constructor
    · rintro ⟨scale, hscale, hpositive⟩
      exact ⟨(FloatFormat.round_pos_iff hpos hscale).mp hpositive,
        (FloatFormat.round_isSome_iff hpos).mp (Option.isSome_iff_exists.mpr ⟨scale, hscale⟩)⟩
    · rintro ⟨hlow, hhigh⟩
      have hfinite : (FloatFormat.binary64.round value).isSome :=
        (FloatFormat.round_isSome_iff hpos).mpr hhigh
      obtain ⟨scale, hscale⟩ := Option.isSome_iff_exists.mp hfinite
      exact ⟨scale, hscale, (FloatFormat.round_pos_iff hpos hscale).mpr hlow⟩

theorem tokenizer_eq_some_iff {src : Text} {token : CustomImageToken} :
    tokenizer src = some token ↔ ∃ groups : ImageMatch, groups.Grammatical ∧ groups.raw <+: src ∧
      toNumber (decimalValue groups.whole groups.fraction) = some token.scale ∧ 0 < token.scale ∧
      token.raw = groups.raw ∧ token.url = trim groups.url ∧ token.alt = trim groups.alt := by
  unfold tokenizer
  constructor
  · intro htoken
    split at htoken
    next => cases htoken
    next groups hmatch =>
      split at htoken
      next => cases htoken
      next scale hscale =>
        obtain ⟨hpositive, hsame⟩ := Option.ite_none_left_eq_some.mp htoken
        cases hsame
        obtain ⟨hgrammar, hraw⟩ := matchImage_eq_some_iff.mp hmatch
        exact ⟨groups, hgrammar, hraw, hscale, not_le.mp hpositive, rfl, rfl, rfl⟩
  · rintro ⟨groups, hgrammar, hraw, hscale, hpositive, htoken⟩
    obtain ⟨raw, url, alt, scale⟩ := token
    obtain ⟨rfl, rfl, rfl⟩ := htoken
    dsimp only at hscale hpositive
    rw [matchImage_eq_some_iff.mpr ⟨hgrammar, hraw⟩]
    dsimp only
    rw [hscale]
    dsimp only
    rw [if_neg (not_le.mpr hpositive)]

/-! ## Escaping -/

/-- What becomes of one code unit. -/
def escapeUnit (u : Fin (2 ^ 16)) : Text :=
  if u = unit '&' then units "&amp;"
  else if u = unit '\x22' then units "&quot;"
  else if u = unit '<' then units "&lt;"
  else if u = unit '>' then units "&gt;"
  else [u]

/-- The ampersands of the later replacements come after all ampersands are replaced. -/
theorem escapeHtmlAttr_eq (value : Text) : escapeHtmlAttr value = value.flatMap escapeUnit := by
  unfold escapeHtmlAttr replaceAll
  rw [List.flatMap_assoc, List.flatMap_assoc, List.flatMap_assoc]
  congr 1
  funext u
  unfold escapeUnit
  split_ifs with hamp hquote hless hgreater
  · decide
  · subst hquote
    decide
  · subst hless
    decide
  · subst hgreater
    decide
  · simp [hquote, hless, hgreater]

/-- An attribute value that cannot end early or start a tag. -/
def SafeValue (value : Text) : Prop :=
  unit '\x22' ∉ value ∧ unit '<' ∉ value ∧ unit '>' ∉ value

theorem escapeUnit_safe (u : Fin (2 ^ 16)) : SafeValue (escapeUnit u) := by
  unfold escapeUnit SafeValue
  split_ifs with hamp hquote hless hgreater
  · decide
  · decide
  · decide
  · decide
  · simp [eq_comm, hquote, hless, hgreater]

theorem escapeHtmlAttr_safe (value : Text) : SafeValue (escapeHtmlAttr value) := by
  rw [escapeHtmlAttr_eq]
  refine ⟨?_, ?_, ?_⟩
  · intro hmem
    obtain ⟨u, -, hu⟩ := List.mem_flatMap.mp hmem
    exact (escapeUnit_safe u).1 hu
  · intro hmem
    obtain ⟨u, -, hu⟩ := List.mem_flatMap.mp hmem
    exact (escapeUnit_safe u).2.1 hu
  · intro hmem
    obtain ⟨u, -, hu⟩ := List.mem_flatMap.mp hmem
    exact (escapeUnit_safe u).2.2 hu

theorem afterLiteral_append (literal : String) (rest : Text) :
    afterLiteral literal (units literal ++ rest) = some rest :=
  afterLiteral_eq_some_iff.mpr rfl

/-- Literals that differ in one of their first units do not both start a text. -/
theorem afterLiteral_none {literal : String} {text : Text} (i : ℕ) (hi : i < (units literal).length)
    (hdiffers : text[i]? ≠ (units literal)[i]?) : afterLiteral literal text = none := by
  rw [Option.eq_none_iff_forall_ne_some]
  intro rest hafter
  rw [afterLiteral_eq_some_iff.mp hafter, List.getElem?_append_left hi] at hdiffers
  exact hdiffers rfl

/-- References that differ in their second unit. -/
theorem reference_none {literal other : String} {rest : Text}
    (hliteral : 1 < (units literal).length) (hother : 1 < (units other).length)
    (hdiffers : (units other)[1]? ≠ (units literal)[1]?) :
    afterLiteral literal (units other ++ rest) = none := by
  refine afterLiteral_none 1 hliteral ?_
  rwa [List.getElem?_append_left hother]

theorem ampersand_none {literal : String} {u : Fin (2 ^ 16)} {rest : Text}
    (hliteral : (units literal)[0]? = some (unit '&')) (hu : u ≠ unit '&') :
    afterLiteral literal (u :: rest) = none := by
  refine afterLiteral_none 0 (List.getElem?_eq_some_iff.mp hliteral).1 ?_
  rw [hliteral]
  simpa using hu

/-- One step of the decoder undoes one step of the escaper. -/
theorem decodeReferences_escapeUnit (fuel : ℕ) (u : Fin (2 ^ 16)) (rest : Text) :
    decodeReferences (fuel + 1) (escapeUnit u ++ rest) = u :: decodeReferences fuel rest := by
  unfold escapeUnit
  split_ifs with hamp hquote hless hgreater
  · have hcons : units "&amp;" ++ rest = unit '&' :: (units "amp;" ++ rest) := rfl
    rw [hcons, decodeReferences, ← hcons, reference_none (by decide) (by decide) (by decide),
      reference_none (by decide) (by decide) (by decide),
      reference_none (by decide) (by decide) (by decide), afterLiteral_append, hamp]
  · have hcons : units "&quot;" ++ rest = unit '&' :: (units "quot;" ++ rest) := rfl
    rw [hcons, decodeReferences, ← hcons, afterLiteral_append, hquote]
  · have hcons : units "&lt;" ++ rest = unit '&' :: (units "lt;" ++ rest) := rfl
    rw [hcons, decodeReferences, ← hcons, reference_none (by decide) (by decide) (by decide),
      afterLiteral_append, hless]
  · have hcons : units "&gt;" ++ rest = unit '&' :: (units "gt;" ++ rest) := rfl
    rw [hcons, decodeReferences, ← hcons, reference_none (by decide) (by decide) (by decide),
      reference_none (by decide) (by decide) (by decide), afterLiteral_append, hgreater]
  · rw [List.singleton_append, decodeReferences, ampersand_none rfl hamp, ampersand_none rfl hamp,
      ampersand_none rfl hamp, ampersand_none rfl hamp]

theorem escapeUnit_ne_nil (u : Fin (2 ^ 16)) : escapeUnit u ≠ [] := by
  unfold escapeUnit
  split_ifs <;> simp [units]

theorem decodeReferences_escape {fuel : ℕ} {value : Text}
    (hfuel : (value.flatMap escapeUnit).length ≤ fuel) :
    decodeReferences fuel (value.flatMap escapeUnit) = value := by
  induction value generalizing fuel with
  | nil =>
      cases fuel with
      | zero => rfl
      | succ fuel => rfl
  | cons u value ih =>
      have hpos := List.length_pos_iff.mpr (escapeUnit_ne_nil u)
      rw [List.flatMap_cons, List.length_append] at hfuel
      obtain ⟨fuel, rfl⟩ : ∃ less, fuel = less + 1 := ⟨fuel - 1, by omega⟩
      rw [List.flatMap_cons, decodeReferences_escapeUnit, ih (by omega)]

theorem decodeValue_escapeHtmlAttr (value : Text) : decodeValue (escapeHtmlAttr value) = value := by
  rw [decodeValue, escapeHtmlAttr_eq]
  exact decodeReferences_escape (Nat.le_refl _)

/-! ## Reading the output -/

/-- An attribute as the renderer writes it. -/
def attributeText (name : String) (value : Text) : Text :=
  units " " ++ units name ++ units "=\"" ++ value ++ units "\""

theorem attributeText_length (name : String) (value : Text) :
    (attributeText name value).length = (units name).length + value.length + 4 := by
  have hblank : (units " ").length = 1 := rfl
  have hequals : (units "=\"").length = 2 := rfl
  have hquote : (units "\"").length = 1 := rfl
  simp only [attributeText, List.length_append, hblank, hequals, hquote]
  omega

theorem afterLiteral_name {literal : String} {first u : Fin (2 ^ 16)} {rest : Text}
    (hliteral : (units literal)[0]? = some first) (hfirst : isNameUnit first = false)
    (hu : isNameUnit u = true) : afterLiteral literal (u :: rest) = none := by
  refine afterLiteral_none 0 (List.getElem?_eq_some_iff.mp hliteral).1 ?_
  rw [hliteral]
  rintro hsame
  cases hsame
  rw [hu] at hfirst
  cases hfirst

/-- The reader goes over an attribute whose value has no double quote. -/
theorem readAttributes_attributeText {name : String} {value : Text}
    (hnonempty : units name ≠ []) (hname : ∀ u ∈ units name, isNameUnit u = true)
    (hvalue : unit '\x22' ∉ value) (fuel : ℕ) (rest : Text) :
    readAttributes (fuel + 1) (attributeText name value ++ rest) =
      (readAttributes fuel rest).map fun read => ((units name, value) :: read.1, read.2) := by
  obtain ⟨first, others, hfirst⟩ := List.exists_cons_of_ne_nil hnonempty
  have hfirstUnit : isNameUnit first = true := hname first (by simp [hfirst])
  have hnoSpace : isHtmlSpace first = false := by
    simp only [isNameUnit, Bool.and_eq_true, Bool.not_eq_true'] at hfirstUnit
    exact hfirstUnit.1.1.1.1.1
  have htext : attributeText name value ++ rest = unit ' ' ::
      (units name ++ (units "=\"" ++ (value ++ (units "\"" ++ rest)))) := by
    simp only [attributeText, List.append_assoc]
    rfl
  have hspace : (attributeText name value ++ rest).dropWhile isHtmlSpace =
      units name ++ (units "=\"" ++ (value ++ (units "\"" ++ rest))) := by
    have hblank : isHtmlSpace (unit ' ') = true := by decide
    rw [htext, List.dropWhile_cons_of_pos hblank, hfirst, List.cons_append,
      List.dropWhile_cons_of_neg (by simp [hnoSpace])]
  have hstop : ∀ u, (units "=\"" ++ (value ++ (units "\"" ++ rest))).head? = some u →
      isNameUnit u = false := by
    intro u hu
    cases hu
    decide
  have hinside : ∀ u ∈ value, (fun u => decide (u ≠ unit '\x22')) u = true := by
    intro u hu
    exact decide_eq_true fun hquote => hvalue (hquote ▸ hu)
  have hquote : (value ++ (units "\"" ++ rest)).takeWhile (· ≠ unit '\x22') = value ∧
      (value ++ (units "\"" ++ rest)).dropWhile (· ≠ unit '\x22') = units "\"" ++ rest := by
    have hend : units "\"" ++ rest = unit '\x22' :: rest := rfl
    rw [List.takeWhile_append_of_pos hinside, List.dropWhile_append_of_pos hinside, hend,
      List.takeWhile_cons_of_neg (by simp), List.dropWhile_cons_of_neg (by simp), List.append_nil]
    exact ⟨rfl, rfl⟩
  have hclose : afterLiteral ">" (units name ++ (units "=\"" ++ (value ++ (units "\"" ++ rest)))) =
      none := by
    rw [hfirst, List.cons_append]
    exact afterLiteral_name rfl (by decide) hfirstUnit
  have hselfClose :
      afterLiteral "/>" (units name ++ (units "=\"" ++ (value ++ (units "\"" ++ rest)))) =
        none := by
    rw [hfirst, List.cons_append]
    exact afterLiteral_name rfl (by decide) hfirstUnit
  rw [readAttributes]
  simp only [hspace, hclose, hselfClose,
    takeSome_eq_some_iff.mpr ⟨rfl, hnonempty, hname, hstop⟩, Option.bind_eq_bind,
    Option.bind_some, afterLiteral_append, hquote.1, hquote.2]
  cases readAttributes fuel rest with
  | none => rfl
  | some read => rfl

theorem readAttributes_end (fuel : ℕ) (rest : Text) :
    readAttributes (fuel + 1) (units " />" ++ rest) = some ([], rest) := by
  have hspace : (units " />" ++ rest).dropWhile isHtmlSpace = units "/>" ++ rest := rfl
  have hclose : afterLiteral ">" (units "/>" ++ rest) = none := by
    refine afterLiteral_none 0 (by decide) fun hsame => ?_
    have hunits : unit '/' = unit '>' := Option.some.inj hsame
    revert hunits
    decide
  rw [readAttributes]
  simp only [hspace, hclose, afterLiteral_append]

/-- Attributes one after the other. -/
def attributeTexts (attributes : List (String × Text)) : Text :=
  attributes.flatMap fun attr => attributeText attr.1 attr.2

/-- An attribute the reader goes over. -/
structure ReadableAttribute (attr : String × Text) : Prop where
  name : units attr.1 ≠ []
  nameUnits : ∀ u ∈ units attr.1, isNameUnit u = true
  value : unit '\x22' ∉ attr.2

theorem readableAttribute {name : String} {value : Text} (hname : units name ≠ [])
    (hunits : (units name).all isNameUnit = true) (hvalue : unit '\x22' ∉ value) :
    ReadableAttribute (name, value) :=
  ⟨hname, List.all_eq_true.mp hunits, hvalue⟩

theorem readAttributes_attributeTexts {attributes : List (String × Text)}
    (hreadable : ∀ attr ∈ attributes, ReadableAttribute attr) {fuel : ℕ}
    (hfuel : attributes.length < fuel) (rest : Text) :
    readAttributes fuel (attributeTexts attributes ++ (units " />" ++ rest)) =
      some (attributes.map fun attr => (units attr.1, attr.2), rest) := by
  induction attributes generalizing fuel with
  | nil =>
      obtain ⟨fuel, rfl⟩ : ∃ less, fuel = less + 1 := ⟨fuel - 1, by simp at hfuel; omega⟩
      exact readAttributes_end fuel rest
  | cons attr attributes ih =>
      obtain ⟨hname, hunits, hvalue⟩ := hreadable attr List.mem_cons_self
      rw [List.length_cons] at hfuel
      obtain ⟨fuel, rfl⟩ : ∃ less, fuel = less + 1 := ⟨fuel - 1, by omega⟩
      rw [attributeTexts, List.flatMap_cons, List.append_assoc,
        readAttributes_attributeText hname hunits hvalue, ← attributeTexts,
        ih (fun attr hmem => hreadable attr (List.mem_cons_of_mem _ hmem)) (by omega)]
      rfl

theorem length_le_attributeTexts (attributes : List (String × Text)) :
    attributes.length ≤ (attributeTexts attributes).length := by
  rw [attributeTexts, List.length_flatMap]
  induction attributes with
  | nil => exact Nat.le_refl _
  | cons attr attributes ih =>
      have hpos : 1 ≤ (attributeText attr.1 attr.2).length := by
        rw [attributeText_length]
        omega
      rw [List.map_cons, List.sum_cons, List.length_cons]
      omega

/-- An element the way the renderer writes it is read back. -/
theorem readElement_attributeTexts {name : String} (hname : units name ≠ [])
    (hunits : ∀ u ∈ units name, isNameUnit u = true) {attributes : List (String × Text)}
    (hsome : attributes ≠ []) (hreadable : ∀ attr ∈ attributes, ReadableAttribute attr) :
    readElement (units "<" ++ (units name ++ (attributeTexts attributes ++ units " />"))) =
      some (⟨units name, attributes.map fun attr => (units attr.1, attr.2)⟩, []) := by
  have hstop : ∀ u, (attributeTexts attributes ++ units " />").head? = some u →
      isNameUnit u = false := by
    intro u hu
    obtain ⟨attr, others, rfl⟩ := List.exists_cons_of_ne_nil hsome
    cases hu
    decide
  have hend : (units " />").length = 3 := rfl
  have hfuel : attributes.length < (attributeTexts attributes ++ units " />").length := by
    rw [List.length_append, hend]
    have hlength := length_le_attributeTexts attributes
    omega
  have hread := readAttributes_attributeTexts hreadable hfuel []
  rw [List.append_nil] at hread
  rw [readElement]
  simp only [Option.bind_eq_bind]
  rw [afterLiteral_append, Option.bind_some, takeSome_eq_some_iff.mpr ⟨rfl, hname, hunits, hstop⟩,
    Option.bind_some]
  dsimp only
  rw [hread, Option.bind_some]
  rfl

/-- The attributes of the image. -/
def imageAttributes (token : CustomImageToken) : List (String × Text) :=
  [("src", escapeHtmlAttr token.url), ("alt", escapeHtmlAttr token.alt),
    ("loading", units "lazy"),
    ("style", units "width:" ++ percentString token.scale ++ units "%;height:auto;")]

theorem renderer_eq (token : CustomImageToken) :
    renderer token =
      units "<" ++ (units "img" ++ (attributeTexts (imageAttributes token) ++ units " />")) := by
  have hopen : units "<img src=\"" = units "<" ++ (units "img" ++ (units " " ++ (units "src" ++
      units "=\""))) := rfl
  have halt : units "\" alt=\"" = units "\"" ++ (units " " ++ (units "alt" ++ units "=\"")) := rfl
  have hstyle : units "\" loading=\"lazy\" style=\"width:" = units "\"" ++ (units " " ++
      (units "loading" ++ (units "=\"" ++ (units "lazy" ++ (units "\"" ++ (units " " ++
      (units "style" ++ (units "=\"" ++ units "width:")))))))) := rfl
  have hclose : units "%;height:auto;\" />" = units "%;height:auto;" ++ (units "\"" ++
      units " />") := rfl
  rw [renderer, hopen, halt, hstyle, hclose]
  simp only [imageAttributes, attributeTexts, attributeText, List.flatMap_cons, List.flatMap_nil,
    List.append_nil, List.append_assoc]

theorem units_above_quote {literal : String}
    (hall : (units literal).all (fun u => unit '\x22' < u) = true) :
    ∀ u ∈ units literal, unit '\x22' < u := by
  intro u hu
  exact of_decide_eq_true (List.all_eq_true.mp hall u hu)

theorem toString_above_quote (n : ℕ) : ∀ u ∈ units (toString n), unit '\x22' < u := by
  intro u hu
  obtain ⟨c, hc, rfl⟩ := List.mem_map.mp hu
  have hdigit : c.isDigit = true := by
    rw [Nat.toString_eq_repr, Nat.repr, String.toList_ofList] at hc
    exact Nat.isDigit_of_mem_toDigits (by decide) (by decide) hc
  obtain ⟨hlow, hhigh⟩ := Char.isDigit_iff_toNat.mp hdigit
  have hzero : '0'.toNat = 48 := rfl
  have hnine : '9'.toNat = 57 := rfl
  have hquote : (unit '\x22').val = 34 := rfl
  have hunit : (unit c).val = c.toNat % 2 ^ 16 := rfl
  rw [Fin.lt_def, hquote, hunit]
  omega

theorem numberToString_above_quote (value : ℚ) :
    ∀ u ∈ numberToString value, unit '\x22' < u := by
  have hzero : unit '\x22' < unit '0' := by decide
  have hpoint : ∀ u ∈ units ".", unit '\x22' < u := units_above_quote rfl
  have hzeroPoint : ∀ u ∈ units "0.", unit '\x22' < u := units_above_quote rfl
  intro u hu
  unfold numberToString at hu
  split at hu
  next => cases hu
  next count exponent digits _ =>
    have hdigits := toString_above_quote digits
    dsimp only at hu
    split at hu
    next =>
      rcases List.mem_append.mp hu with hu | hu
      · exact hdigits u hu
      · exact List.eq_of_mem_replicate hu ▸ hzero
    split at hu
    next =>
      rw [List.append_assoc, List.mem_append, List.mem_append] at hu
      rcases hu with hu | hu | hu
      · exact hdigits u (List.mem_of_mem_take hu)
      · exact hpoint u hu
      · exact hdigits u (List.mem_of_mem_drop hu)
    split at hu
    next =>
      rw [List.append_assoc, List.mem_append, List.mem_append] at hu
      rcases hu with hu | hu | hu
      · exact hzeroPoint u hu
      · exact List.eq_of_mem_replicate hu ▸ hzero
      · exact hdigits u hu
    next =>
      rw [List.append_assoc, List.append_assoc, List.mem_append, List.mem_append,
        List.mem_append] at hu
      rcases hu with hu | hu | hu | hu
      · exact hdigits u (List.mem_of_mem_take hu)
      · split at hu
        next => cases hu
        next =>
          rcases List.mem_append.mp hu with hu | hu
          · exact hpoint u hu
          · exact hdigits u (List.mem_of_mem_drop hu)
      · split at hu
        next => exact units_above_quote rfl u hu
        next => exact units_above_quote rfl u hu
      · exact toString_above_quote _ u hu

theorem percentString_above_quote (scale : ℚ) : ∀ u ∈ percentString scale, unit '\x22' < u := by
  unfold percentString
  split
  next => exact units_above_quote rfl
  next percent _ => exact numberToString_above_quote percent

theorem imageAttributes_readable (token : CustomImageToken) :
    ∀ attr ∈ imageAttributes token, ReadableAttribute attr := by
  have hlazy : unit '\x22' ∉ units "lazy" := fun hmem =>
    absurd (units_above_quote rfl _ hmem) (lt_irrefl _)
  have hstyle : unit '\x22' ∉ units "width:" ++ percentString token.scale ++
      units "%;height:auto;" := by
    intro hmem
    rw [List.append_assoc, List.mem_append, List.mem_append] at hmem
    rcases hmem with hmem | hmem | hmem
    · exact absurd (units_above_quote rfl _ hmem) (lt_irrefl _)
    · exact absurd (percentString_above_quote _ _ hmem) (lt_irrefl _)
    · exact absurd (units_above_quote rfl _ hmem) (lt_irrefl _)
  simp only [imageAttributes, List.forall_mem_cons]
  exact ⟨readableAttribute (by decide) rfl (escapeHtmlAttr_safe _).1,
    readableAttribute (by decide) rfl (escapeHtmlAttr_safe _).1,
    readableAttribute (by decide) rfl hlazy, readableAttribute (by decide) rfl hstyle, nofun⟩

/-- What the renderer writes is read back as one element. -/
theorem readElement_renderer (token : CustomImageToken) :
    readElement (renderer token) = some (⟨units "img",
      (imageAttributes token).map fun attr => (units attr.1, attr.2)⟩, []) := by
  rw [renderer_eq]
  exact readElement_attributeTexts (by decide) (List.all_eq_true.mp rfl) nofun
    (imageAttributes_readable token)

/-! ## The whole extension -/

theorem decimalValue_nonneg (whole fraction : Text) : 0 ≤ decimalValue whole fraction := by
  have hhorner : ∀ digits : Text,
      0 ≤ horner (10 : ℚ) (digits.map fun u => ((u.val - (unit '0').val : ℕ) : ℚ)) := by
    intro digits
    induction digits using List.reverseRecOn with
    | nil => exact le_rfl
    | append_singleton digits u ih =>
        rw [List.map_append, List.map_singleton, horner_concat]
        positivity
  exact div_nonneg (hhorner _) (by positivity)

/-- A token is produced for exactly the texts of the grammar, and its element gives back the
trimmed groups. -/
theorem customImage_exact (src : Text) :
    ((tokenizer src).isSome ↔
      ∃ groups : ImageMatch, groups.Grammatical ∧ groups.FinitePositive ∧ groups.raw <+: src) ∧
    (∀ groups : ImageMatch, groups.FinitePositive ↔
      (2 : ℚ) ^ (-1075 : ℤ) < decimalValue groups.whole groups.fraction ∧
        decimalValue groups.whole groups.fraction < 2 ^ (1024 : ℤ) - 2 ^ (970 : ℤ)) ∧
    ∀ token, tokenizer src = some token →
      (∃ groups : ImageMatch, groups.Grammatical ∧ groups.FinitePositive ∧ groups.raw <+: src ∧
        token.raw = groups.raw ∧ token.raw ≠ [] ∧ token.url = trim groups.url ∧
        token.alt = trim groups.alt) ∧
      ∃ srcValue altValue style,
        readElement (renderer token) = some (⟨units "img",
          [(units "src", srcValue), (units "alt", altValue), (units "loading", units "lazy"),
            (units "style", style)]⟩, []) ∧
        SafeValue srcValue ∧ SafeValue altValue ∧
        decodeValue srcValue = token.url ∧ decodeValue altValue = token.alt := by
  refine ⟨⟨?_, ?_⟩, fun groups => toNumber_finitePositive_iff (decimalValue_nonneg _ _), ?_⟩
  · intro hsome
    obtain ⟨token, htoken⟩ := Option.isSome_iff_exists.mp hsome
    obtain ⟨groups, hgrammar, hraw, hscale, hpositive, -⟩ := tokenizer_eq_some_iff.mp htoken
    exact ⟨groups, hgrammar, ⟨token.scale, hscale, hpositive⟩, hraw⟩
  · rintro ⟨groups, hgrammar, ⟨scale, hscale, hpositive⟩, hraw⟩
    have htoken : tokenizer src = some ⟨groups.raw, trim groups.url, trim groups.alt, scale⟩ :=
      tokenizer_eq_some_iff.mpr ⟨groups, hgrammar, hraw, hscale, hpositive, rfl, rfl, rfl⟩
    rw [htoken]
    rfl
  · intro token htoken
    obtain ⟨groups, hgrammar, hraw, hscale, hpositive, hsame, hurl, halt⟩ :=
      tokenizer_eq_some_iff.mp htoken
    refine ⟨⟨groups, hgrammar, ⟨token.scale, hscale, hpositive⟩, hraw, hsame, ?_, hurl, halt⟩, ?_⟩
    · rw [hsame, ImageMatch.raw]
      intro hempty
      simp [units] at hempty
    · exact ⟨_, _, _, readElement_renderer token, escapeHtmlAttr_safe _, escapeHtmlAttr_safe _,
        decodeValue_escapeHtmlAttr _, decodeValue_escapeHtmlAttr _⟩

example : (tokenizer (units "![[a.png| x & y |0.5]] rest")).map renderer =
    some (units "<img src=\"a.png\" alt=\"x &amp; y\" loading=\"lazy\" " ++
      units "style=\"width:50%;height:auto;\" />") := by
  decide +kernel

end CollabEditor.Frontend
