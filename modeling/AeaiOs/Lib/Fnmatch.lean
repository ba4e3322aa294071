import AeaiOs.Lib.PyText

/-!
Shell-style patterns: `*`, `?`, `[seq]` and `[!seq]`, case sensitive, as
`fnmatch.fnmatch` reads them on POSIX.
-/
namespace Fnmatch
open PyText

inductive Token where
  | star
  | one (accepts : Char → Bool)

/-- The members of a bracket: ranges `a-b` and single characters. An empty range
    accepts nothing. -/
def inSet : Nat → Text → Char → Bool
  | 0, _, _ => false
  | _ + 1, [], _ => false
  | fuel + 1, a :: rest, c =>
      match rest with
      | dash :: b :: after =>
          if dash = '-' then (a ≤ c && c ≤ b) || inSet fuel after c
          else a == c || inSet fuel rest c
      | _ => a == c || inSet fuel rest c

/-- The text up to the next `]` and the text after it. -/
def closing : Text → Option (Text × Text)
  | [] => none
  | c :: rest =>
      if c = ']' then some ([], rest)
      else (closing rest).map fun (before, after) => (c :: before, after)

/-- The text of a bracket, where a `]` that comes first is a member. -/
def bracket (s : Text) : Option (Text × Text) :=
  if s.head? = some ']' then (closing s.tail).map fun (before, after) => (']' :: before, after)
  else closing s

/-- The bracket that starts after `[`: whether it is negated, its members and the
    pattern after it. -/
def bracketSet (s : Text) : Option (Bool × Text × Text) :=
  if s.head? = some '!' then
    (bracket s.tail).map fun (members, after) => (true, members, after)
  else (bracket s).map fun (members, after) => (false, members, after)

def tokens : Nat → Text → List Token
  | 0, _ => []
  | _ + 1, [] => []
  | fuel + 1, c :: rest =>
      if c = '*' then .star :: tokens fuel rest
      else if c = '?' then .one (fun _ => true) :: tokens fuel rest
      else if c = '[' then
        match bracketSet rest with
        | some (negated, members, after) =>
            .one (fun d => inSet members.length members d != negated) :: tokens fuel after
        | none => .one (· == '[') :: tokens fuel rest
      else .one (· == c) :: tokens fuel rest

def anySuffix (p : Text → Bool) : Text → Bool
  | [] => p []
  | c :: s => p (c :: s) || anySuffix p s

def accepts : List Token → Text → Bool
  | [], s => s.isEmpty
  | .star :: rest, s => anySuffix (accepts rest) s
  | .one p :: rest, c :: s => p c && accepts rest s
  | .one _ :: _, [] => false

def fnmatch (name pattern : String) : Bool :=
  accepts (tokens pattern.toList.length pattern.toList) name.toList

example : ["delete_x", "deletex"].map (fnmatch · "delete_[!a-c]*") = [true, false] := by decide

end Fnmatch
