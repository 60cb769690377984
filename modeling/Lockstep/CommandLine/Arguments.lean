import Lockstep.Text.Glyph

/-! Arguments of a command. An option is introduced by one dash and a letter, or by two dashes and a
word. Letters can share a dash. The value of an option is attached to it or follows as an argument
of its own, whatever that looks like, and two lone dashes end the options. -/
namespace Lockstep

structure OptionTable (α : Type) where
  flags : List (Text × α)
  valued : List (Text × (Text → α))
  /-- Whether options may follow arguments that are not options. -/
  interspersed : Bool

inductive OptionGroup (α : Type) where
  | complete (found : List α)
  /-- The last option still needs a value, which is the next argument. -/
  | awaiting (found : List α) (last : Text → α)

def OptionGroup.after {α : Type} (first : α) : OptionGroup α → OptionGroup α
  | .complete found => .complete (first :: found)
  | .awaiting found last => .awaiting (first :: found) last

namespace OptionTable

variable {α : Type}

def dash : Glyph := .char '-'

/-- The options that share a dash. Letters behind one that takes a value are that value. -/
def letters (o : OptionTable α) : Text → Option (OptionGroup α)
  | [] => some (.complete [])
  | letter :: rest =>
    match o.flags.lookup [dash, letter] with
    | some found => (letters o rest).map (OptionGroup.after found)
    | none =>
      match o.valued.lookup [dash, letter] with
      | none => none
      | some make => some (if rest = [] then .awaiting [] make else .complete [make rest])

def isWord (o : OptionTable α) (name : Text) : Bool :=
  2 < name.length && (o.flags.any (·.1 = name) || o.valued.any (·.1 = name))

def word? (o : OptionTable α) (name : Text) (attached : Option Text) : Option (OptionGroup α) :=
  match o.flags.lookup name, o.valued.lookup name, attached with
  | some found, _, none => some (.complete [found])
  | none, some make, some value => some (.complete [make value])
  | none, some make, none => some (.awaiting [] make)
  | _, _, _ => none

def group? (o : OptionTable α) (argument : Text) : Option (OptionGroup α) :=
  let attached := Text.cut? "=" argument
  let name := (attached.map Prod.fst).getD argument
  if o.isWord name then o.word? name (attached.map Prod.snd)
  else if ([dash, dash] : Text).isPrefixOf argument then none
  else o.letters (argument.drop 1)

def parse (o : OptionTable α) : List Text → Option (List α × List Text)
  | [] => some ([], [])
  | argument :: rest =>
    if argument = [dash, dash] then some ([], rest)
    else if argument.head? = some dash ∧ 1 < argument.length then
      match o.group? argument with
      | none => none
      | some (.complete found) =>
        (parse o rest).map fun (options, others) => (found ++ options, others)
      | some (.awaiting found last) =>
        match rest with
        | [] => none
        | value :: rest =>
          (parse o rest).map fun (options, others) => (found ++ last value :: options, others)
    else if o.interspersed then
      (parse o rest).map fun (options, others) => (options, argument :: others)
    else some ([], argument :: rest)

end OptionTable
end Lockstep
