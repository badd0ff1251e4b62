/-
Lower case, upper case and comparing without regard to case.

Names of objects, variables and functions are compared in lower case, so `lower` and
`upper` follow the full case mappings: some characters become several, and a capital
sigma at the end of a word has a lower-case form of its own.  The keywords of statement
forms are compared one character at a time instead, by `fold`, which sends all the
variants of a letter to one representative.
-/
import CardTalk.Text.CaseTable

namespace CardTalk.Text

/-- The image of a code point under a table of runs; a point in no run is its own image. -/
def mapRuns (runs : List (Nat × Nat × Nat × Nat)) (n : Nat) : Nat :=
  match runs.find? fun r => r.1 ≤ n && n ≤ r.2.1 && (n - r.1) % r.2.2.1 == 0 with
  | some (first, _, _, image) => image + (n - first)
  | none => n

/-- The lower-case form that has one character. -/
def lowerChar (c : Char) : Char :=
  if c.val < 128 then c.toLower
  else if c = 'İ' then 'i'
  else Char.ofNat (mapRuns lowerRuns c.toNat)

/-- The full lower-case form: a dotted capital I keeps its dot as a combining mark. -/
def lowerForm (c : Char) : Text :=
  if c = 'İ' then ['i', '\u0307'] else [lowerChar c]

/-- The full upper-case form. -/
def upperForm (c : Char) : Text :=
  if c.val < 128 then [c.toUpper]
  else
    match upperExpansions.find? fun e => e.1 == c.toNat with
    | some (_, image) => image.map Char.ofNat
    | none => [Char.ofNat (mapRuns upperRuns c.toNat)]

/-- Whether the first character that matters is a letter with case. -/
def startsCased (t : Text) : Bool :=
  match t.dropWhile (inRanges caseIgnorableRanges) with
  | [] => false
  | c :: _ => inRanges casedRanges c

/-- The lower-case form of a capital sigma, between the characters before it, nearest
first, and those after it.  It ends a word when a letter comes before and none after. -/
def lowerSigma (before after : Text) : Char :=
  if startsCased before && !startsCased after then 'ς' else 'σ'

/-- The text in lower case. -/
def lower (t : Text) : Text := go [] t
where
  /-- `before` holds the characters already passed, nearest first. -/
  go (before : Text) : Text → Text
    | [] => []
    | c :: rest =>
      (if c = 'Σ' then [lowerSigma before rest] else lowerForm c) ++ go (c :: before) rest

/-- The text in upper case. -/
def upper (t : Text) : Text := t.flatMap upperForm

/-- The variants of a letter that differ by more than capital against small: each small
letter on the left counts as the one on the right. -/
def foldVariants : List (Char × Char) := [
  ('ı', 'i'), ('ſ', 's'), ('\u00b5', 'μ'), ('\u0345', 'ι'), ('\u1fbe', 'ι'), ('\u1fd3', '\u0390'),
  ('\u1fe3', '\u03b0'), ('ϐ', 'β'), ('ϵ', 'ε'), ('ϑ', 'θ'), ('ϰ', 'κ'), ('ϖ', 'π'), ('ϱ', 'ρ'),
  ('ς', 'σ'), ('ϕ', 'φ'), ('\u1c80', 'в'), ('\u1c81', 'д'), ('\u1c82', 'о'), ('\u1c83', 'с'),
  ('\u1c84', 'т'), ('\u1c85', 'т'), ('\u1c86', 'ъ'), ('\u1c87', 'ѣ'), ('\u1c88', '\ua64b'),
  ('\u1e9b', '\u1e61'), ('\ufb06', '\ufb05')]

/-- The representative of a letter among its capital, small and variant forms. -/
def fold (c : Char) : Char :=
  if c.val < 128 then c.toLower
  else
    let small := lowerChar c
    ((foldVariants.find? fun v => v.1 == small).map Prod.snd).getD small

end CardTalk.Text
