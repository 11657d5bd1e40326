import BmwRemote.Lib.TextWriting
import BmwRemote.Lib.Utf8

/-! JSON over bytes: the values whose numbers are integers, how they are written without
white space, and a reader. -/
namespace BmwRemote.Lib

inductive Json where
  | boolean (value : Bool)
  | number (value : Int)
  | string (value : Text)
  | array (items : List Json)
  | object (members : List (Text × Json))

namespace Json

open Text (ascii isDigit)

def quotationMark : UInt8 := 34
def comma : UInt8 := 44
def minus : UInt8 := 45
def zero : UInt8 := 48
def colon : UInt8 := 58
def beginArray : UInt8 := 91
def escapeMark : UInt8 := 92
def endArray : UInt8 := 93
def beginObject : UInt8 := 123
def endObject : UInt8 := 125

/-! Writing. -/

def shortEscapes : List (UInt8 × UInt8) :=
  [(34, 34), (92, 92), (8, 98), (12, 102), (10, 110), (13, 114), (9, 116)]

def hexDigit (value : UInt8) : UInt8 := value.toNat.digitChar.toUInt8

def escape (character : UInt8) : Text :=
  match shortEscapes.find? fun pair => character == pair.1 with
  | some pair => [escapeMark, pair.2]
  | none =>
    if character < 32 then
      [escapeMark, 117, zero, zero, hexDigit (character / 16), hexDigit (character % 16)]
    else [character]

def quote (value : Text) : Text := quotationMark :: (value.flatMap escape ++ [quotationMark])

def signed (value : Int) : Text :=
  if value < 0 then minus :: Text.decimal value.natAbs else Text.decimal value.natAbs

def truth (value : Bool) : Text := ascii (if value then "true" else "false")

mutual

def render : Json → Text
  | boolean value => truth value
  | number value => signed value
  | string value => quote value
  | array [] => [beginArray, endArray]
  | array (item :: items) => beginArray :: (render item ++ renderItems items)
  | object [] => [beginObject, endObject]
  | object ((name, value) :: members) =>
      beginObject :: (quote name ++ colon :: (render value ++ renderMembers members))

def renderItems : List Json → Text
  | [] => [endArray]
  | item :: items => comma :: (render item ++ renderItems items)

def renderMembers : List (Text × Json) → Text
  | [] => [endObject]
  | (name, value) :: members =>
      comma :: (quote name ++ colon :: (render value ++ renderMembers members))

end

/-! Reading. A reader yields a value and the text behind it. -/

def isBlank (character : UInt8) : Bool := character ∈ [32, 9, 10, 13]

def skipBlanks (text : Text) : Text := text.dropWhile isBlank

def expect (character : UInt8) (text : Text) : Option Text :=
  match text with
  | [] => none
  | first :: rest => if first = character then some rest else none

def expectAll (characters text : Text) : Option Text :=
  if characters.isPrefixOf text then some (text.drop characters.length) else none

def unicode (digits : Text) : Option Text :=
  (Text.number 16 digits).bind fun code =>
    if 0xD800 ≤ code ∧ code ≤ 0xDFFF then none
    else some (String.utf8EncodeChar (Char.ofNat code))

def unescape (text : Text) : Option (Text × Text) :=
  match text with
  | [] => none
  | code :: rest =>
    if code = 117 then
      if rest.length < 4 then none
      else (unicode (rest.take 4)).map fun characters => (characters, rest.drop 4)
    else if code = 47 then some ([47], rest)
    else ((shortEscapes.find? fun pair => code == pair.2).map fun pair => ([pair.1], rest))

/-- A text up to the quotation mark that ends it, within so many characters. -/
def readText : Nat → Text → Option (Text × Text)
  | 0, _ => none
  | _ + 1, [] => none
  | fuel + 1, character :: rest =>
    if character = quotationMark then some ([], rest)
    else if character = escapeMark then do
      let (characters, rest) ← unescape rest
      let (value, rest) ← readText fuel rest
      return (characters ++ value, rest)
    else if character < 32 then none
    else do
      let (value, rest) ← readText fuel rest
      return (character :: value, rest)

def readDigits (text : Text) : Option (Nat × Text) :=
  let digits := text.takeWhile (isDigit 10)
  if digits.head? = some zero ∧ digits.length ≠ 1 then none
  else (Text.number 10 digits).map fun value => (value, text.drop digits.length)

def readNumber (text : Text) : Option (Int × Text) :=
  match expect minus text with
  | some rest => (readDigits rest).map fun read => (-(read.1 : Int), read.2)
  | none => (readDigits text).map fun read => ((read.1 : Int), read.2)

def readName (fuel : Nat) (text : Text) : Option (Text × Text) := do
  let rest ← expect quotationMark (skipBlanks text)
  let (name, rest) ← readText fuel rest
  let rest ← expect colon (skipBlanks rest)
  return (name, rest)

mutual

/-- A value, within so many calls. -/
def readValue : Nat → Text → Option (Json × Text)
  | 0, _ => none
  | fuel + 1, text =>
    match skipBlanks text with
    | [] => none
    | first :: rest =>
      if first = quotationMark then
        (readText fuel rest).map fun read => (.string read.1, read.2)
      else if first = beginArray then
        match expect endArray (skipBlanks rest) with
        | some rest => some (.array [], rest)
        | none => do
          let (item, rest) ← readValue fuel rest
          let (items, rest) ← readItems fuel rest
          return (.array (item :: items), rest)
      else if first = beginObject then
        match expect endObject (skipBlanks rest) with
        | some rest => some (.object [], rest)
        | none => do
          let (name, rest) ← readName fuel rest
          let (value, rest) ← readValue fuel rest
          let (members, rest) ← readMembers fuel rest
          return (.object ((name, value) :: members), rest)
      else
        match expectAll (truth true) (first :: rest), expectAll (truth false) (first :: rest) with
        | some rest, _ => some (.boolean true, rest)
        | none, some rest => some (.boolean false, rest)
        | none, none => (readNumber (first :: rest)).map fun read => (.number read.1, read.2)

def readItems : Nat → Text → Option (List Json × Text)
  | 0, _ => none
  | fuel + 1, text =>
    match expect endArray (skipBlanks text) with
    | some rest => some ([], rest)
    | none => do
      let rest ← expect comma (skipBlanks text)
      let (item, rest) ← readValue fuel rest
      let (items, rest) ← readItems fuel rest
      return (item :: items, rest)

def readMembers : Nat → Text → Option (List (Text × Json) × Text)
  | 0, _ => none
  | fuel + 1, text =>
    match expect endObject (skipBlanks text) with
    | some rest => some ([], rest)
    | none => do
      let rest ← expect comma (skipBlanks text)
      let (name, rest) ← readName fuel rest
      let (value, rest) ← readValue fuel rest
      let (members, rest) ← readMembers fuel rest
      return ((name, value) :: members, rest)

end

def read (text : Text) : Option Json :=
  match readValue text.length text with
  | some (value, rest) => if skipBlanks rest = [] then some value else none
  | none => none

/-! A text is read back up to its quotation mark. -/

theorem unescape_short (rest : Text) :
    ∀ pair ∈ shortEscapes, unescape (pair.2 :: rest) = some ([pair.1], rest) := by
  simp only [shortEscapes, List.forall_mem_cons]
  exact ⟨rfl, rfl, rfl, rfl, rfl, rfl, rfl, nofun⟩

theorem unicode_control : ∀ code < 32,
    unicode [zero, zero, hexDigit (UInt8.ofNat code / 16), hexDigit (UInt8.ofNat code % 16)] =
      some [UInt8.ofNat code] := by decide

theorem readText_unescape {escaped rest characters : Text}
    (h : unescape escaped = some (characters, rest)) (fuel : Nat) :
    readText (fuel + 1) (escapeMark :: escaped) =
      (readText fuel rest).map fun read => (characters ++ read.1, read.2) := by
  have hmark : escapeMark ≠ quotationMark := by decide
  rw [readText, if_neg hmark, if_pos rfl, h]
  change (readText fuel rest).bind _ = _
  cases readText fuel rest with
  | none => rfl
  | some read => rfl

theorem unescape_control {character : UInt8} (h : character < 32) (rest : Text) :
    unescape (117 :: zero :: zero :: hexDigit (character / 16) :: hexDigit (character % 16) ::
      rest) = some ([character], rest) := by
  have hunicode := unicode_control character.toNat (UInt8.lt_iff_toNat_lt.mp h)
  rw [UInt8.ofNat_toNat] at hunicode
  have hlong : ¬ (zero :: zero :: hexDigit (character / 16) :: hexDigit (character % 16) ::
      rest).length < 4 := by
    simp only [List.length_cons]
    omega
  rw [unescape, if_pos rfl, if_neg hlong]
  exact congrArg (Option.map fun characters => (characters, rest)) hunicode

theorem readText_escape (character : UInt8) (fuel : Nat) (rest : Text) :
    readText (fuel + 1) (escape character ++ rest) =
      (readText fuel rest).map fun read => (character :: read.1, read.2) := by
  unfold escape
  cases hshort : shortEscapes.find? fun pair => character == pair.1 with
  | some pair =>
    obtain rfl : character = pair.1 := by simpa using List.find?_some hshort
    exact readText_unescape (unescape_short rest pair (List.mem_of_find?_eq_some hshort)) fuel
  | none =>
    dsimp only
    split
    · rename_i hcontrol
      exact readText_unescape (unescape_control hcontrol rest) fuel
    · rename_i hplain
      have hother := List.find?_eq_none.mp hshort
      have hquote : character ≠ quotationMark := by
        rintro rfl
        exact hother (34, 34) (by decide) rfl
      have hmark : character ≠ escapeMark := by
        rintro rfl
        exact hother (92, 92) (by decide) rfl
      rw [List.singleton_append, readText, if_neg hquote, if_neg hmark, if_neg hplain]
      cases readText fuel rest with
      | none => rfl
      | some read => rfl

theorem length_escape_pos (character : UInt8) : 0 < (escape character).length := by
  unfold escape
  split
  · exact Nat.succ_pos _
  · split
    · exact Nat.succ_pos _
    · exact Nat.succ_pos _

theorem readText_quote (value rest : Text) {fuel : Nat}
    (hfuel : (value.flatMap escape).length < fuel) :
    readText fuel (value.flatMap escape ++ quotationMark :: rest) = some (value, rest) := by
  induction value generalizing fuel with
  | nil =>
    cases fuel with
    | zero => cases hfuel
    | succ fuel => exact if_pos rfl
  | cons character value ih =>
    have hpos := length_escape_pos character
    rw [List.flatMap_cons, List.length_append] at hfuel
    cases fuel with
    | zero => cases hfuel
    | succ fuel =>
      rw [List.flatMap_cons, List.append_assoc, readText_escape, ih (by omega)]
      rfl

/-! A number is read back where no digit stands behind it. -/

def Ends (rest : Text) : Prop := ∀ character ∈ rest.head?, isDigit 10 character = false

theorem decimal_spec (value : Nat) :
    Text.decimal value ≠ [] ∧ ∀ character ∈ Text.decimal value, isDigit 10 character = true :=
  (Text.number_isSome_iff 10 _).mp (Option.isSome_of_eq_some (Text.number_decimal value))

theorem zero_of_leading {value : Nat} (h : (Text.decimal value).head? = some zero) :
    value = 0 := by
  induction value using Nat.strongRecOn with
  | ind value ih =>
    rw [Text.decimal, Nat.toDigits_eq_if (by decide)] at h
    split at h
    · rename_i hlt
      have hdigit : ∀ digit < 10,
          ([digit.digitChar].map Char.toUInt8).head? = some zero → digit = 0 := by decide
      exact hdigit value hlt h
    · rename_i hge
      have hhead : (Text.decimal (value / 10)).head? = some zero := by
        have hne : (Nat.toDigits 10 (value / 10)).map Char.toUInt8 ≠ [] :=
          (decimal_spec (value / 10)).1
        rwa [List.map_append, List.head?_append_of_ne_nil _ hne] at h
      have hrest := ih (value / 10) (by omega) hhead
      omega

theorem takeWhile_ends {rest : Text} (h : Ends rest) : rest.takeWhile (isDigit 10) = [] := by
  cases rest with
  | nil => rfl
  | cons character rest =>
    rw [List.takeWhile_cons, h character rfl]
    rfl

theorem readDigits_decimal (value : Nat) {rest : Text} (h : Ends rest) :
    readDigits (Text.decimal value ++ rest) = some (value, rest) := by
  have hdigits : (Text.decimal value ++ rest).takeWhile (isDigit 10) = Text.decimal value := by
    rw [List.takeWhile_append_of_pos (decimal_spec value).2, takeWhile_ends h, List.append_nil]
  have hleading :
      ¬ ((Text.decimal value).head? = some zero ∧ (Text.decimal value).length ≠ 1) := by
    rintro ⟨hhead, hlength⟩
    obtain rfl := zero_of_leading hhead
    exact hlength (by decide)
  unfold readDigits
  dsimp only
  rw [hdigits, if_neg hleading, Text.number_decimal, List.drop_left]
  rfl

def Numeric (character : UInt8) : Prop := character = minus ∨ isDigit 10 character = true

instance (character : UInt8) : Decidable (Numeric character) :=
  inferInstanceAs (Decidable (_ ∨ _))

theorem Numeric.ne {character other : UInt8} (h : Numeric character)
    (hother : ¬ Numeric other) : character ≠ other := by
  rintro rfl
  exact hother h

theorem Numeric.not_blank {character : UInt8} (h : Numeric character) :
    isBlank character = false := by
  have hblanks : ∀ blank ∈ [32, 9, 10, 13], ¬ Numeric blank := by decide +kernel
  exact decide_eq_false fun hblank => hblanks character hblank h

theorem signed_head (value : Int) :
    ∃ character rest, signed value = character :: rest ∧ Numeric character := by
  unfold signed
  split
  · exact ⟨minus, _, rfl, .inl rfl⟩
  · obtain ⟨hne, hdigits⟩ := decimal_spec value.natAbs
    obtain ⟨character, rest, heq⟩ := List.exists_cons_of_ne_nil hne
    exact ⟨character, rest, heq, .inr (hdigits character (heq ▸ List.mem_cons_self))⟩

theorem readNumber_signed (value : Int) {rest : Text} (h : Ends rest) :
    readNumber (signed value ++ rest) = some (value, rest) := by
  unfold signed
  split
  · rename_i hnegative
    change (readDigits (Text.decimal value.natAbs ++ rest)).map _ = _
    rw [readDigits_decimal _ h, Option.map_some, Int.ofNat_natAbs_of_nonpos (by omega), Int.neg_neg]
  · rename_i hpositive
    obtain ⟨hne, hdigits⟩ := decimal_spec value.natAbs
    have hminus : expect minus (Text.decimal value.natAbs ++ rest) = none := by
      cases hdecimal : Text.decimal value.natAbs with
      | nil => exact absurd hdecimal hne
      | cons character others =>
        rw [hdecimal, List.forall_mem_cons] at hdigits
        refine if_neg ?_
        rintro rfl
        exact absurd hdigits.1 (by decide)
    unfold readNumber
    rw [hminus]
    dsimp only
    rw [readDigits_decimal _ h, Option.map_some, Int.natAbs_of_nonneg (by omega)]

/-! A value is read back. Its first character says which kind it is. -/

theorem render_head (value : Json) :
    ∃ character rest, render value = character :: rest ∧ isBlank character = false ∧
      character ≠ endArray := by
  cases value with
  | boolean value =>
    cases value with
    | false => exact ⟨102, _, rfl, rfl, by decide⟩
    | true => exact ⟨116, _, rfl, rfl, by decide⟩
  | number value =>
    obtain ⟨character, rest, heq, hnumeric⟩ := signed_head value
    exact ⟨character, rest, heq, hnumeric.not_blank, hnumeric.ne (by decide)⟩
  | string value => exact ⟨quotationMark, _, rfl, rfl, by decide⟩
  | array items =>
    cases items with
    | nil => exact ⟨beginArray, _, rfl, rfl, by decide⟩
    | cons item items => exact ⟨beginArray, _, rfl, rfl, by decide⟩
  | object members =>
    cases members with
    | nil => exact ⟨beginObject, _, rfl, rfl, by decide⟩
    | cons member members => exact ⟨beginObject, _, rfl, rfl, by decide⟩

theorem skipBlanks_render (value : Json) (rest : Text) :
    skipBlanks (render value ++ rest) = render value ++ rest ∧
      expect endArray (render value ++ rest) = none := by
  obtain ⟨character, others, heq, hblank, hend⟩ := render_head value
  rw [heq, List.cons_append]
  exact ⟨List.dropWhile_cons_of_neg (by simp [hblank]), if_neg hend⟩

theorem readName_quote (name rest : Text) (fuel : Nat) (hfuel : (quote name).length ≤ fuel) :
    readName fuel (quote name ++ colon :: rest) = some (name, rest) := by
  have hquoted : expect quotationMark (skipBlanks (quote name ++ colon :: rest)) =
      some (name.flatMap escape ++ quotationMark :: colon :: rest) := by
    rw [quote, List.cons_append, List.append_assoc]
    rfl
  have hlong : (name.flatMap escape).length < fuel := by
    rw [quote, List.length_cons, List.length_append] at hfuel
    omega
  unfold readName
  rw [hquoted]
  change (readText fuel _).bind _ = _
  rw [readText_quote name _ hlong]
  rfl

theorem readValue_string (value rest : Text) {fuel : Nat} (hfuel : (quote value).length ≤ fuel) :
    readValue fuel (quote value ++ rest) = some (string value, rest) := by
  cases fuel with
  | zero => cases hfuel
  | succ fuel =>
    have hlong : (value.flatMap escape).length < fuel := by
      rw [quote, List.length_cons, List.length_append, List.length_singleton] at hfuel
      omega
    rw [quote, List.cons_append, List.append_assoc]
    change (readText fuel _).map _ = _
    rw [List.singleton_append, readText_quote value rest hlong]
    rfl

theorem readValue_number (value : Int) {rest : Text} (h : Ends rest) (fuel : Nat) :
    readValue (fuel + 1) (signed value ++ rest) = some (number value, rest) := by
  have hread := readNumber_signed value h
  obtain ⟨character, others, heq, hnumeric⟩ := signed_head value
  have hskip : skipBlanks (signed value ++ rest) = character :: (others ++ rest) := by
    rw [heq, List.cons_append]
    exact List.dropWhile_cons_of_neg (by simp [hnumeric.not_blank])
  have hother (word : Bool) : expectAll (truth word) (character :: (others ++ rest)) = none := by
    have hfirst : character ≠ 102 ∧ character ≠ 116 :=
      ⟨hnumeric.ne (by decide), hnumeric.ne (by decide)⟩
    refine if_neg fun hprefix => ?_
    obtain ⟨_, heq⟩ := List.isPrefixOf_iff_prefix.mp hprefix
    cases word with
    | false => exact hfirst.1 (List.cons.inj heq).1.symm
    | true => exact hfirst.2 (List.cons.inj heq).1.symm
  have hquote : character ≠ quotationMark := hnumeric.ne (by decide)
  have harray : character ≠ beginArray := hnumeric.ne (by decide)
  have hobject : character ≠ beginObject := hnumeric.ne (by decide)
  rw [heq, List.cons_append] at hread
  rw [readValue, hskip]
  dsimp only
  rw [if_neg hquote, if_neg harray, if_neg hobject, hother, hother, hread]
  rfl

section Steps

variable {fuel : Nat} {text tail rest : Text} {item : Json} {items : List Json} {name : Text}
  {members : List (Text × Json)}

theorem readValue_array (hhead : expect endArray (skipBlanks text) = none)
    (hitem : readValue fuel text = some (item, tail))
    (hitems : readItems fuel tail = some (items, rest)) :
    readValue (fuel + 1) (beginArray :: text) = some (array (item :: items), rest) := by
  have hskip : skipBlanks (beginArray :: text) = beginArray :: text := rfl
  have hquote : beginArray ≠ quotationMark := by decide
  rw [readValue, hskip]
  dsimp only
  rw [if_neg hquote, if_pos rfl, hhead, hitem, Option.bind_eq_bind, Option.bind_some, hitems]
  rfl

theorem readItems_cons (hitem : readValue fuel text = some (item, tail))
    (hitems : readItems fuel tail = some (items, rest)) :
    readItems (fuel + 1) (comma :: text) = some (item :: items, rest) := by
  have hend : expect endArray (skipBlanks (comma :: text)) = none := rfl
  have hcomma : expect comma (skipBlanks (comma :: text)) = some text := rfl
  rw [readItems, hend]
  dsimp only
  rw [hcomma, Option.bind_eq_bind, Option.bind_some, hitem, Option.bind_eq_bind, Option.bind_some,
    hitems]
  rfl

theorem readValue_object (hhead : expect endObject (skipBlanks text) = none)
    (hname : readName fuel text = some (name, tail)) {others : Text}
    (hitem : readValue fuel tail = some (item, others))
    (hmembers : readMembers fuel others = some (members, rest)) :
    readValue (fuel + 1) (beginObject :: text) = some (object ((name, item) :: members), rest) := by
  have hskip : skipBlanks (beginObject :: text) = beginObject :: text := rfl
  have hquote : beginObject ≠ quotationMark := by decide
  have harray : beginObject ≠ beginArray := by decide
  rw [readValue, hskip]
  dsimp only
  rw [if_neg hquote, if_neg harray, if_pos rfl, hhead, hname, Option.bind_eq_bind,
    Option.bind_some, hitem, Option.bind_eq_bind, Option.bind_some, hmembers]
  rfl

theorem readMembers_cons (hname : readName fuel text = some (name, tail)) {others : Text}
    (hitem : readValue fuel tail = some (item, others))
    (hmembers : readMembers fuel others = some (members, rest)) :
    readMembers (fuel + 1) (comma :: text) = some ((name, item) :: members, rest) := by
  have hend : expect endObject (skipBlanks (comma :: text)) = none := rfl
  have hcomma : expect comma (skipBlanks (comma :: text)) = some text := rfl
  rw [readMembers, hend]
  dsimp only
  rw [hcomma, Option.bind_eq_bind, Option.bind_some, hname, Option.bind_eq_bind, Option.bind_some,
    hitem, Option.bind_eq_bind, Option.bind_some, hmembers]
  rfl

end Steps

theorem ends_renderItems (items : List Json) (rest : Text) : Ends (renderItems items ++ rest) := by
  cases items with
  | nil => rintro _ ⟨⟩; rfl
  | cons item items => rintro _ ⟨⟩; rfl

theorem ends_renderMembers (members : List (Text × Json)) (rest : Text) :
    Ends (renderMembers members ++ rest) := by
  cases members with
  | nil => rintro _ ⟨⟩; rfl
  | cons member members => rintro _ ⟨⟩; rfl

/-! Every call reads less than the one around it, so the length of the text is enough. -/

mutual

theorem readValue_render (value : Json) {rest : Text} (hends : Ends rest) (fuel : Nat)
    (hfuel : (render value).length ≤ fuel) :
    readValue fuel (render value ++ rest) = some (value, rest) := by
  cases fuel with
  | zero =>
    obtain ⟨character, others, heq, -⟩ := render_head value
    rw [heq] at hfuel
    cases hfuel
  | succ fuel =>
  match value with
  | boolean false => rfl
  | boolean true => rfl
  | number value => exact readValue_number value hends fuel
  | string value => exact readValue_string value rest hfuel
  | array [] => rfl
  | array (item :: items) =>
    rw [render, List.length_cons, List.length_append] at hfuel
    have hitem := readValue_render item (ends_renderItems items rest) fuel (by omega)
    have hitems := readItems_render items rest fuel (by omega)
    obtain ⟨hskip, hend⟩ := skipBlanks_render item (renderItems items ++ rest)
    rw [render, List.cons_append, List.append_assoc]
    exact readValue_array (by rw [hskip, hend]) hitem hitems
  | object [] => rfl
  | object ((name, value) :: members) =>
    rw [render, List.length_cons, List.length_append, List.length_cons, List.length_append] at hfuel
    have hname := readName_quote name (render value ++ (renderMembers members ++ rest))
      fuel (by omega)
    have hvalue := readValue_render value (ends_renderMembers members rest) fuel (by omega)
    have hmembers := readMembers_render members rest fuel (by omega)
    rw [render, List.cons_append, List.append_assoc, List.cons_append, List.append_assoc]
    exact readValue_object rfl hname hvalue hmembers

theorem readItems_render (items : List Json) (rest : Text) (fuel : Nat)
    (hfuel : (renderItems items).length ≤ fuel) :
    readItems fuel (renderItems items ++ rest) = some (items, rest) := by
  cases fuel with
  | zero => cases items <;> cases hfuel
  | succ fuel =>
  match items with
  | [] => rfl
  | item :: items =>
    rw [renderItems, List.length_cons, List.length_append] at hfuel
    have hitem := readValue_render item (ends_renderItems items rest) fuel (by omega)
    have hitems := readItems_render items rest fuel (by omega)
    rw [renderItems, List.cons_append, List.append_assoc]
    exact readItems_cons hitem hitems

theorem readMembers_render (members : List (Text × Json)) (rest : Text) (fuel : Nat)
    (hfuel : (renderMembers members).length ≤ fuel) :
    readMembers fuel (renderMembers members ++ rest) = some (members, rest) := by
  cases fuel with
  | zero => cases members <;> cases hfuel
  | succ fuel =>
  match members with
  | [] => rfl
  | (name, value) :: members =>
    rw [renderMembers, List.length_cons, List.length_append, List.length_cons,
      List.length_append] at hfuel
    have hname := readName_quote name (render value ++ (renderMembers members ++ rest)) fuel
      (by omega)
    have hvalue := readValue_render value (ends_renderMembers members rest) fuel (by omega)
    have hmembers := readMembers_render members rest fuel (by omega)
    rw [renderMembers, List.cons_append, List.append_assoc, List.cons_append, List.append_assoc]
    exact readMembers_cons hname hvalue hmembers

end

/-- The round trip. -/
theorem read_render (value : Json) : read (render value) = some value := by
  have hread := readValue_render value (show Ends [] from nofun) _ (Nat.le_refl _)
  rw [List.append_nil] at hread
  unfold read
  rw [hread]
  rfl

/-! What is written has no control characters, so it stays on one line. -/

def Printable (text : Text) : Prop := ∀ character ∈ text, 32 ≤ character

instance (text : Text) : Decidable (Printable text) := List.decidableBAll _ text

theorem Printable.append {left right : Text} (hleft : Printable left) (hright : Printable right) :
    Printable (left ++ right) := List.forall_mem_append.mpr ⟨hleft, hright⟩

theorem Printable.cons {character : UInt8} {text : Text} (hcharacter : 32 ≤ character)
    (htext : Printable text) : Printable (character :: text) :=
  List.forall_mem_cons.mpr ⟨hcharacter, htext⟩

theorem Printable.newline {text : Text} (h : Printable text) : Text.newline ∉ text :=
  fun hnewline => absurd (h _ hnewline) (by decide)

theorem printable_escape (character : UInt8) : Printable (escape character) := by
  unfold escape
  cases hshort : shortEscapes.find? fun pair => character == pair.1 with
  | some pair =>
    have hcodes : shortEscapes.all (fun pair => decide (32 ≤ pair.2)) = true := by decide
    have hcode := List.all_eq_true.mp hcodes pair (List.mem_of_find?_eq_some hshort)
    exact .cons (by decide) (List.forall_mem_singleton.mpr (of_decide_eq_true hcode))
  | none =>
    dsimp only
    split
    · rename_i hcontrol
      have hdigits : ∀ code < 32, ∀ digit ∈ [escapeMark, 117, zero, zero,
          hexDigit (UInt8.ofNat code / 16), hexDigit (UInt8.ofNat code % 16)], 32 ≤ digit := by
        decide +kernel
      have hall := hdigits character.toNat (UInt8.lt_iff_toNat_lt.mp hcontrol)
      rwa [UInt8.ofNat_toNat] at hall
    · rename_i hplain
      exact List.forall_mem_singleton.mpr (UInt8.not_lt.mp hplain)

theorem printable_quote (value : Text) : Printable (quote value) := by
  have hescaped : Printable (value.flatMap escape) := by
    intro character hmem
    obtain ⟨source, -, hcharacter⟩ := List.mem_flatMap.mp hmem
    exact printable_escape source character hcharacter
  exact .cons (by decide) (hescaped.append (List.forall_mem_singleton.mpr (by decide)))

theorem printable_signed (value : Int) : Printable (signed value) := by
  have hdecimal : Printable (Text.decimal value.natAbs) := by
    intro character hmem
    have hdigit := (decimal_spec value.natAbs).2 character hmem
    by_contra hcontrol
    have hnone : ∀ code < 32, isDigit 10 (UInt8.ofNat code) = false := by decide
    have hall := hnone character.toNat (UInt8.lt_iff_toNat_lt.mp (UInt8.not_le.mp hcontrol))
    rw [UInt8.ofNat_toNat, hdigit] at hall
    cases hall
  unfold signed
  split
  · exact .cons (by decide) hdecimal
  · exact hdecimal

mutual

theorem printable_render (value : Json) : Printable (render value) := by
  match value with
  | boolean false => decide
  | boolean true => decide
  | number value => exact printable_signed value
  | string value => exact printable_quote value
  | array [] => decide
  | array (item :: items) =>
    exact .cons (by decide) ((printable_render item).append (printable_renderItems items))
  | object [] => decide
  | object ((name, value) :: members) =>
    exact .cons (by decide) ((printable_quote name).append (.cons (by decide)
      ((printable_render value).append (printable_renderMembers members))))

theorem printable_renderItems (items : List Json) : Printable (renderItems items) := by
  match items with
  | [] => decide
  | item :: items =>
    exact .cons (by decide) ((printable_render item).append (printable_renderItems items))

theorem printable_renderMembers (members : List (Text × Json)) :
    Printable (renderMembers members) := by
  match members with
  | [] => decide
  | (name, value) :: members =>
    exact .cons (by decide) ((printable_quote name).append (.cons (by decide)
      ((printable_render value).append (printable_renderMembers members))))

end

/-! Text that needs no escapes. -/

def Plain (text : Text) : Prop := ∀ character ∈ text, escape character = [character]

theorem Plain.quote {text : Text} (h : Plain text) :
    quote text = quotationMark :: (text ++ [quotationMark]) := by
  have hescape : text.flatMap escape = text := by
    induction text with
    | nil => rfl
    | cons character rest ih =>
      obtain ⟨hcharacter, hrest⟩ := List.forall_mem_cons.mp h
      rw [List.flatMap_cons, hcharacter, ih hrest]
      rfl
  rw [Json.quote, hescape]

end Json

end BmwRemote.Lib
