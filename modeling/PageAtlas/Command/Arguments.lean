namespace PageAtlas

/-!
# Reading arguments

Arguments are options and positional ones. An option begins with two dashes; a
value follows as the next argument or after an equals sign. A pair of dashes
ends the options. Where options come first, the first positional argument ends
them as well.
-/

structure OptionSpec where
  name : String
  takesValue : Bool
  deriving DecidableEq, Repr

structure GivenOption where
  name : String
  value : Option String := none
  deriving DecidableEq, Repr

structure Arguments where
  /-- In the order in which they were given. -/
  options : List GivenOption := []
  positional : List String := []
  deriving DecidableEq, Repr

namespace Arguments

def addOption (o : GivenOption) (a : Arguments) : Arguments := { a with options := o :: a.options }

def addPositional (s : String) (a : Arguments) : Arguments :=
  { a with positional := s :: a.positional }

/-- An option cut at its first equals sign. -/
def cutValue (s : String) : String × Option String :=
  let cs := s.toList
  match cs.dropWhile (· != '=') with
  | [] => (s, none)
  | _ :: value => (String.ofList (cs.takeWhile (· != '=')), some (String.ofList value))

def letters? (specs : List OptionSpec) (s : String) : Option (List GivenOption) :=
  (s.toList.drop 1).mapM fun c =>
    let name := String.ofList ['-', c]
    if specs.any (·.name == name) then some ⟨name, none⟩ else none

def isOption (s : String) : Bool := s.toList.head? == some '-' && s != "-"

/-- Reads arguments; nothing if one is not understood. With `mixed`, options
may follow positional arguments. -/
def read? (specs : List OptionSpec) (mixed : Bool) : List String → Option Arguments
  | [] => some {}
  | s :: rest =>
      if s = "--" then some { positional := rest }
      else if isOption s then
        let (name, value) := cutValue s
        match specs.find? fun o => o.name == name && o.name.length > 2 with
        | some o =>
            if o.takesValue then
              match value with
              | some v => (read? specs mixed rest).map (addOption ⟨name, some v⟩)
              | none =>
                  match rest with
                  | [] => none
                  | v :: rest => (read? specs mixed rest).map (addOption ⟨name, some v⟩)
            else if value.isSome then none
            else (read? specs mixed rest).map (addOption ⟨name, none⟩)
        | none =>
            if "--".toList.isPrefixOf s.toList then none
            else
              match letters? specs s, read? specs mixed rest with
              | some found, some a => some { a with options := found ++ a.options }
              | _, _ => none
      else if mixed then (read? specs mixed rest).map (addPositional s)
      else some { positional := s :: rest }

def value? (name : String) (a : Arguments) : Option String :=
  (a.options.reverse.find? fun o => o.name == name).bind GivenOption.value

def has (name : String) (a : Arguments) : Bool := a.options.any fun o => o.name == name

/-- The last of two opposite switches that was given. -/
def switch? (on off : String) (a : Arguments) : Option Bool :=
  (a.options.reverse.find? fun o => o.name == on || o.name == off).map fun o => o.name == on

end Arguments

end PageAtlas
