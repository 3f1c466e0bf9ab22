import PathPolicy.Text.Pieces

/-!
# Options and arguments

Arguments that begin with a hyphen are options, all others are positional.  A
short option is one letter behind one hyphen; several may share the hyphen, and
what follows one that takes a value is its value.  A long option is a word behind
two hyphens, and its value may follow an equals sign.  Otherwise the value is the
next argument, whatever it looks like.  Behind two hyphens by themselves every
argument is positional.
-/

namespace PathPolicy.CommandLine

/-- An option: what it is called and whether it takes a value. -/
structure OptionForm (κ : Type) where
  option : κ
  short : Option Char
  long : String
  takesValue : Bool
  deriving Repr

/-- The options that were given, with their values, and the positional arguments. -/
structure Arguments (κ : Type) where
  options : List (κ × String)
  positional : List String
  deriving DecidableEq, Repr

/-- Whether options may follow positional arguments, or belong to what these name. -/
inductive Placement
  | anywhere
  | inFront
  deriving DecidableEq, Repr

/-- What one argument with options holds: options with their values, and perhaps a last
one whose value is the next argument. -/
structure OptionWord (κ : Type) where
  given : List (κ × String)
  awaiting : Option κ
  deriving DecidableEq, Repr

namespace Arguments

variable {κ : Type}

/-- One more option in front. -/
def withOption (arguments : Arguments κ) (option : κ) (value : String) : Arguments κ :=
  ⟨(option, value) :: arguments.options, arguments.positional⟩

/-- One more positional argument in front. -/
def withPositional (arguments : Arguments κ) (argument : String) : Arguments κ :=
  ⟨arguments.options, argument :: arguments.positional⟩

/-- Reads the letters behind one hyphen. -/
def readLetters (forms : List (OptionForm κ)) : List Char → Option (OptionWord κ)
  | [] => some ⟨[], none⟩
  | letter :: rest =>
      match forms.find? fun form => form.short == some letter with
      | none => none
      | some form =>
          if form.takesValue then
            match rest with
            | [] => some ⟨[], some form.option⟩
            | value => some ⟨[(form.option, String.ofList value)], none⟩
          else
            (readLetters forms rest).map fun word =>
              ⟨(form.option, "") :: word.given, word.awaiting⟩

/-- Reads the word behind two hyphens. -/
def readWord (forms : List (OptionForm κ)) (characters : List Char) : Option (OptionWord κ) :=
  let (name, value?) :=
    match Text.breakFirst (· == '=') characters with
    | some (name, value) => (String.ofList name, some (String.ofList value))
    | none => (String.ofList characters, none)
  match forms.find? fun form => form.long == name with
  | none => none
  | some form =>
      match form.takesValue, value? with
      | true, some value => some ⟨[(form.option, value)], none⟩
      | true, none => some ⟨[], some form.option⟩
      | false, some _ => none
      | false, none => some ⟨[(form.option, "")], none⟩

/-- Reads the options in an argument; nothing if the argument is positional. -/
def readOptions? (forms : List (OptionForm κ)) (argument : String) :
    Option (Option (OptionWord κ)) :=
  match argument.toList with
  | first :: second :: rest =>
      if first ≠ '-' then none
      else if second = '-' then some (readWord forms rest)
      else some (readLetters forms (second :: rest))
  | _ => none

/-- Reads arguments; nothing if an option is not known, lacks its value, or has one that
it does not take. -/
def read? (forms : List (OptionForm κ)) (placement : Placement) :
    List String → Option (Arguments κ)
  | [] => some ⟨[], []⟩
  | argument :: rest =>
      if argument = "--" then some ⟨[], rest⟩
      else
        match readOptions? forms argument with
        | none =>
            if placement = .inFront then some ⟨[], argument :: rest⟩
            else (read? forms placement rest).map (·.withPositional argument)
        | some none => none
        | some (some ⟨given, none⟩) =>
            (read? forms placement rest).map fun arguments =>
              ⟨given ++ arguments.options, arguments.positional⟩
        | some (some ⟨given, some option⟩) =>
            match rest with
            | [] => none
            | value :: behind =>
                (read? forms placement behind).map fun arguments =>
                  ⟨given ++ (option, value) :: arguments.options, arguments.positional⟩

@[simp]
theorem read?_nil (forms : List (OptionForm κ)) (placement : Placement) :
    read? forms placement [] = some ⟨[], []⟩ :=
  rfl

/-- Behind two hyphens everything is positional. -/
@[simp]
theorem read?_separator (forms : List (OptionForm κ)) (placement : Placement)
    (rest : List String) : read? forms placement ("--" :: rest) = some ⟨[], rest⟩ := by
  rw [read?, if_pos rfl]

/-- Whether an option was given. -/
def has [BEq κ] (arguments : Arguments κ) (option : κ) : Bool :=
  arguments.options.any fun given => given.1 == option

/-- The value of an option; of several the last. -/
def value? [BEq κ] (arguments : Arguments κ) (option : κ) : Option String :=
  arguments.options.reverse.lookup option

end Arguments

end PathPolicy.CommandLine
