import Timeline.Text.Blank

/-!
# Trigger text

Writing text into a node's trigger property starts animations. The text is a list of tokens
separated by commas; each token is `marker` (a marker of the default animation) or
`marker@animation`. Tokens are trimmed of blanks, and so are both halves of a qualified token.
A token that is empty, has an empty marker or animation, or has more than one `@` is malformed;
malformed tokens are collected and never stop the others.
-/

namespace Timeline

open Timeline.Text

/-- A request to run from a marker of an animation. -/
structure TriggerToken where
  /-- The marker to run from. -/
  marker : String
  /-- The animation; `none` is the default animation. -/
  animation : Option String
  deriving DecidableEq, Repr

/-- The tokens of a trigger text, in order, and the malformed ones. -/
structure TriggerText where
  /-- The well-formed tokens. -/
  tokens : List TriggerToken := []
  /-- The malformed tokens, trimmed. -/
  malformed : List String := []
  deriving DecidableEq, Repr

/-- Splits text at every occurrence of a character, keeping empty pieces. -/
def splitAt (s : String) (c : Char) : List String := (s.toList.splitOn c).map String.ofList

/-- Reads one trimmed token. -/
def parseToken (token : String) : Option TriggerToken :=
  if token.isEmpty then none
  else
    match splitAt token '@' with
    | [m] => let m := trimBlanks m; if m.isEmpty then none else some ⟨m, none⟩
    | [m, a] =>
      let m := trimBlanks m
      let a := trimBlanks a
      if m.isEmpty || a.isEmpty then none else some ⟨m, some a⟩
    | _ => none

/-- Reads a trigger text. -/
def parseTrigger (value : String) : TriggerText :=
  (splitAt value ',').foldl
    (fun acc raw =>
      let token := trimBlanks raw
      match parseToken token with
      | some t => { acc with tokens := acc.tokens ++ [t] }
      | none => { acc with malformed := acc.malformed ++ [token] })
    {}

end Timeline
