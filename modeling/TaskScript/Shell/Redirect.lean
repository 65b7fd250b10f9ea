import TaskScript.Shell.Expansion
import TaskScript.Shell.Process

/-!
# Redirect — descriptors as redirections ask for them

- `Redirect.expand` : redirections with their goals expanded
- `Redirect.all`    : the state in which they have been followed, as far as that is possible

Goals are expanded before any redirection is followed, documents only when their turn comes.
-/

namespace TaskScript
namespace Shell
namespace Redirect

/-- A redirection whose goal is a text. -/
structure Link where
  descriptor : Nat
  direction : Direction
  goal : String
  deriving DecidableEq, Repr

/-- The descriptor that a text names; none in it is to be closed. -/
def descriptor? (text : String) : Option (Option Nat) :=
  match text.toList with
  | ['-'] => some none
  | [c] => if c.isDigit then some (some (c.toNat - '0'.toNat)) else none
  | _ => none

/-- Redirections with their goals expanded, as far as they can be. -/
def expand (capture : Expansion.Capture) (depth : Nat) (redirections : List Redirection)
    (m : Machine) : List Link × Machine :=
  let found := redirections.foldl (fun (reversed, m) (.to descriptor direction goal) =>
    if m.flow != .onward then (reversed, m)
    else
      let (text, m) := Expansion.text capture depth .inWord goal m
      if m.flow == .onward && direction == .duplicate && (descriptor? text).isNone then
        (reversed, m.abandon "Syntax error: Bad fd number" 2)
      else
        ((⟨descriptor, direction, text⟩ : Link) :: reversed, m)) (([] : List Link), m)
  (found.1.reverse, found.2)

/-- Why a file could not be opened, where a missing one is told in words of its own. -/
def refusal (missing : String) : SystemError → String
  | .notFound | .notDirectory => missing
  | cause => cause.reason

/-- Follow a redirection, or say why that is impossible. -/
def follow (capture : Expansion.Capture) (depth : Nat) (link : Link) (m : Machine) :
    Except String Machine :=
  let path := Machine.pathOf link.goal
  let writing (how : Creation) (appends reads : Bool) : Except String Machine :=
    match m.openToWrite path how appends reads with
    | .ok (place, m) => .ok (m.linked link.descriptor (some place))
    | .error e =>
      .error ("cannot create " ++ link.goal ++ ": " ++ refusal "Directory nonexistent" e)
  match link.direction with
  | .source =>
    match m.openToRead path with
    | .ok (place, m) => .ok (m.linked link.descriptor (some place))
    | .error e => .error ("cannot open " ++ link.goal ++ ": " ++ refusal "No such file" e)
  | .both => writing ⟨true, false, false⟩ false true
  | .replacing => writing ⟨true, true, m.has 'C'⟩ false false
  | .overriding => writing ⟨true, true, false⟩ false false
  | .appending => writing ⟨true, false, false⟩ true false
  | .duplicate =>
    match descriptor? link.goal with
    | some (some source) =>
      match m.place? source with
      | some place => .ok (m.linked link.descriptor (some place))
      | none => .error (link.goal ++ ": " ++ SystemError.badDescriptor.reason)
    | _ => .ok (m.linked link.descriptor none)
  | .document number =>
    let word := (m.documents.lookup number).getD []
    let (text, m) := Expansion.text capture depth .nowhere word m
    if m.flow == .onward then
      let (place, m) := m.addSource (Octets.toBytes text) false
      .ok (m.linked link.descriptor (some place))
    else
      .ok m

/-- Follow redirections in order, and tell whether that was possible. -/
def all (capture : Expansion.Capture) (depth : Nat) (links : List Link) (m : Machine) :
    Bool × Machine :=
  links.foldl (fun (possible, m) link =>
    if !possible then (false, m)
    else
      match follow capture depth link m with
      | .error message => (false, (m.warn message).withStatus 2)
      | .ok after =>
        if after.flow == .failing then (false, { after with flow := .onward }.withStatus 2)
        else (after.flow == .onward, after)) (true, m)

/-- The descriptors as they were before. -/
def undo (before m : Machine) : Machine := { m with links := before.links }

end Redirect
end Shell
end TaskScript
