import LoxExpr.Terminal.Emoji.Names
import LoxExpr.Text.Blank
import LoxExpr.Terminal.Width

/-!
# Emoji by name

In a prompt the name of an emoji between two colons stands for the emoji. The name may end with a
request for one of its two presentations, and upper case does not matter. Other text stays as it
is.
-/

namespace LoxExpr.Terminal.Emoji

/-! ## Names -/

/-- The skin tones, each with the character that gives it. -/
def tones : List (String × Char) :=
  [("light_skin_tone", '🏻'), ("medium-light_skin_tone", '🏼'), ("medium_skin_tone", '🏽'),
   ("medium-dark_skin_tone", '🏾'), ("dark_skin_tone", '🏿')]

/-- The character that asks for the presentation of the one before as text. -/
def textSelector : Char := '\ufe0e'

/-- An emoji with a skin tone after its first character, in the place of a selector there. -/
def withTone (tone : Char) (emoji : String) : String :=
  match emoji.toList with
  | [] => ""
  | c :: rest =>
    .ofList (c :: tone :: if rest.head? = some emojiSelector then rest.drop 1 else rest)

/-- All names. -/
def names : List (String × String) :=
  others ++ countries ++ countries.map (fun (name, flag) => ("flag_for_" ++ name, flag)) ++
    people ++ people.flatMap fun (name, emoji) =>
      tones.map fun (tone, c) => (name ++ "_" ++ tone, withTone c emoji)

/-- Lower case, for the characters whose lower case occurs in a name. -/
def lower (c : Char) : Char :=
  if 'À' ≤ c ∧ c ≤ 'Þ' then Char.ofNat (c.toNat + 32)
  else if c = '\u212a' then 'k'
  else if c = '\u212b' then 'å'
  else c.toLower

/-! ## Codes -/

/-- A code without its request for a presentation, and the selector for that. -/
def splitSelector (code : List Char) : List Char × List Char :=
  if "-emoji".toList.isSuffixOf code then (code.take (code.length - 6), [emojiSelector])
  else if "-text".toList.isSuffixOf code then (code.take (code.length - 5), [textSelector])
  else (code, [])

/-- What a code between two colons stands for. -/
def ofCode? (code : List Char) : Option (List Char) :=
  let (name, selector) := splitSelector code
  (names.lookup (.ofList (name.map lower))).map (·.toList ++ selector)

/-- Whether a character can stand in a code. -/
def isCodeChar (c : Char) : Bool := c ≠ ':' && !Text.isBlank c

/-- A text with the codes replaced that stand for something. The colon that ends a code begins no
other. -/
def replaceCodes : List Char → List Char
  | [] => []
  | ':' :: rest =>
    let code := rest.takeWhile isCodeChar
    match h : rest.dropWhile isCodeChar with
    | ':' :: after =>
      have : after.length < rest.length := by
        have := (List.dropWhile_suffix isCodeChar (l := rest)).length_le
        simp [h] at this
        omega
      (ofCode? code).getD (':' :: code ++ [':']) ++ replaceCodes after
    | _ => ':' :: replaceCodes rest
  | c :: rest => c :: replaceCodes rest
termination_by text => text.length

end LoxExpr.Terminal.Emoji
