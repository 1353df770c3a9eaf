import OwlScript.Text.Similarity

namespace OwlScript

/-!
# Arguments

A command looks at its first argument for a request for information instead of
its work.  The batch command takes everything that is no such request for the
arguments of its work; the shell command has none and refuses everything else.
-/

/-- What a command can be asked for instead of its work. -/
inductive Information where
  | help
  | version
  deriving Repr, DecidableEq

namespace Information

/-- Everything that can be asked for. -/
def all : List Information :=
  [.help, .version]

/-- The word that asks for it, without its two dashes. -/
def word : Information → String
  | .help => "help"
  | .version => "version"

/-- The letter that asks for it, without its dash. -/
def letter : Information → Char
  | .help => 'h'
  | .version => 'V'

/-- The argument that asks for it. -/
def option (information : Information) : String :=
  "--" ++ information.word

/-- What a word asks for. -/
def ofWord? (word : String) : Option Information :=
  all.find? fun information => information.word == word

/-- What a letter asks for. -/
def ofLetter? (letter : Char) : Option Information :=
  all.find? fun information => information.letter == letter

/-- How similar another word has to be, and more, to be taken for a slip. -/
def slipSimilarity : Float :=
  0.7

/-- The similarity of a word to the one that asks for something. -/
def similarityTo (information : Information) (word : String) : Float :=
  Text.similarity word.toList information.word.toList

/-- What a word that asks for nothing was most likely meant to ask for. -/
def nearest? (word : String) : Option Information :=
  let close :=
    all.filter fun information =>
      slipSimilarity < information.similarityTo word
  close.foldl
    (fun best information =>
      match best with
      | none => some information
      | some earlier =>
          if information.similarityTo word < earlier.similarityTo word then
            some earlier
          else
            some information)
    none

end Information

/-- What an argument looks like. -/
inductive ArgumentForm where
  /-- Two dashes: nothing behind them is a request. -/
  | endOfOptions
  /-- Two dashes and a word, perhaps with a value behind an equals sign. -/
  | word (name : String) (value : Option String)
  /-- One dash and letters. -/
  | letters (first : Char) (rest : List Char)
  | plain
  deriving Repr, DecidableEq

namespace ArgumentForm

/-- The word and the value in what follows two dashes. -/
def ofWordCharacters (characters : List Char) : ArgumentForm :=
  let name := String.ofList (characters.takeWhile (· != '='))
  match characters.dropWhile (· != '=') with
  | [] => .word name none
  | _ :: value => .word name (some (String.ofList value))

/-- What an argument looks like. -/
def ofArgument (argument : String) : ArgumentForm :=
  match argument.toList with
  | ['-', '-'] => .endOfOptions
  | '-' :: '-' :: characters => ofWordCharacters characters
  | '-' :: first :: rest => .letters first rest
  | _ => .plain

end ArgumentForm

/-- Why an argument is refused. -/
inductive ArgumentFault where
  /-- The argument means nothing, though it may be a slip for a request. -/
  | unexpected (argument : String) (nearest : Option Information)
  /-- The request takes no value. -/
  | unneededValue (information : Information) (value : String)
  deriving Repr, DecidableEq

namespace ArgumentFault

/-- The request that the fault is about. -/
def information? : ArgumentFault → Option Information
  | .unexpected _ nearest => nearest
  | .unneededValue information _ => some information

end ArgumentFault

/-- What arguments ask of a command. -/
inductive CommandRequest where
  | inform (information : Information)
  | refusal (fault : ArgumentFault)
  | work (arguments : List String)
  deriving Repr, DecidableEq

namespace CommandRequest

/-- What a word with perhaps a value asks for, if it is a request at all. -/
def ofWord? (name : String) (value : Option String) : Option CommandRequest :=
  (Information.ofWord? name).map fun information =>
    match value with
    | none => .inform information
    | some value => .refusal (.unneededValue information value)

/-- What arguments ask of the batch command. -/
def ofBatchArguments (arguments : List String) : CommandRequest :=
  match arguments with
  | [] => .work []
  | first :: rest =>
      match ArgumentForm.ofArgument first with
      | .endOfOptions => .work rest
      | .word name value => (ofWord? name value).getD (.work arguments)
      | .letters letter letters =>
          match Information.ofLetter? letter with
          | some information =>
              if letters.all fun other =>
                  (Information.ofLetter? other).isSome then
                .inform information
              else
                .work arguments
          | none => .work arguments
      | .plain => .work arguments

/-- The refusal of an argument as it stands. -/
def unexpected (argument : String) : CommandRequest :=
  .refusal (.unexpected argument none)

/-- What arguments ask of the shell command, whose work takes none. -/
def ofShellArguments (arguments : List String) : CommandRequest :=
  match arguments with
  | [] => .work []
  | first :: rest =>
      match ArgumentForm.ofArgument first with
      | .endOfOptions =>
          match rest with
          | [] => .work []
          | argument :: _ => unexpected argument
      | .word name value =>
          (ofWord? name value).getD
            (.refusal
              (.unexpected ("--" ++ name) (Information.nearest? name)))
      | .letters letter _ =>
          match Information.ofLetter? letter with
          | some information => .inform information
          | none => unexpected (String.ofList ['-', letter])
      | .plain => unexpected first

end CommandRequest

end OwlScript
