import LinkHarvest.Text.Basic

/-!
# Arguments

How a list of arguments is read. An option is a word behind two dashes or a letter behind one; it
may take a value, which follows it or is attached to it. Letters may share a dash. Behind two
dashes alone there are no options. Whatever is no option is an operand.
-/

namespace LinkHarvest.Command

/-- An option that a command knows: its spellings, and whether it takes a value. -/
structure OptionForm where
  spellings : List Text
  takesValue : Bool
  deriving DecidableEq, Repr

/-- An option as it was given: its first spelling, and its value if it takes one. -/
structure Given where
  option : Text
  value : Option Text
  deriving DecidableEq, Repr

/-- The options and operands of a list of arguments. -/
structure Arguments where
  given : List Given
  operands : List Text
  deriving DecidableEq, Repr

namespace OptionForm

/-- The name under which an option is known. -/
def name (o : OptionForm) : Text := o.spellings.headD []

def find? (forms : List OptionForm) (spelling : Text) : Option OptionForm :=
  forms.find? fun o => o.spellings.contains spelling

end OptionForm

/-- The options that letters behind one dash give, and the option whose value is the next argument.
What follows the letter of an option with a value is that value. -/
def readLetters (forms : List OptionForm) :
    Text → Option (List Given × Option OptionForm)
  | [] => some ([], none)
  | c :: rest =>
    match OptionForm.find? forms ['-', c] with
    | none => none
    | some o =>
      if !o.takesValue then
        (readLetters forms rest).map fun (given, last) => (⟨o.name, none⟩ :: given, last)
      else if rest.isEmpty then some ([], some o)
      else some ([⟨o.name, some rest⟩], none)

/-- The options that an argument gives, and the option whose value is the next argument. -/
def readOption (forms : List OptionForm) (arg : Text) :
    Option (List Given × Option OptionForm) :=
  let (word, attached) := Text.cut '=' arg
  match OptionForm.find? forms word with
  | some o =>
    if word.length = 2 && attached.isSome then readLetters forms (arg.drop 1)
    else
      match o.takesValue, attached with
      | true, some value => some ([⟨o.name, some value⟩], none)
      | true, none => some ([], some o)
      | false, none => some ([⟨o.name, none⟩], none)
      | false, some _ => none
  | none => if Text.startsWith arg "--" then none else readLetters forms (arg.drop 1)

/-- Whether an argument is written as an option. -/
def isOption (arg : Text) : Bool := Text.startsWith arg ['-'] && 1 < arg.length

/-- The arguments with more options in front. -/
def Arguments.behind (given : List Given) (a : Arguments) : Arguments :=
  { a with given := given ++ a.given }

/-- Reads arguments. Unless options may stand behind operands, the first operand ends them. -/
def readArguments (forms : List OptionForm) (mixed : Bool) : List Text → Option Arguments
  | [] => some ⟨[], []⟩
  | arg :: rest =>
    if arg = ['-', '-'] then some ⟨[], rest⟩
    else if isOption arg then
      match readOption forms arg, rest with
      | none, _ => none
      | some (given, none), rest => (readArguments forms mixed rest).map (.behind given)
      | some (_, some _), [] => none
      | some (given, some o), value :: rest =>
        (readArguments forms mixed rest).map (.behind (given ++ [⟨o.name, some value⟩]))
    else if mixed then
      (readArguments forms mixed rest).map fun a => { a with operands := arg :: a.operands }
    else some ⟨[], arg :: rest⟩

namespace Arguments

def has (a : Arguments) (name : Text) : Bool := a.given.any fun g => g.option = name

/-- The value of an option; of several the last one counts. -/
def value? (a : Arguments) (name : Text) : Option Text :=
  (a.given.reverse.find? fun g => g.option = name).bind (·.value)

end Arguments

end LinkHarvest.Command
