namespace KubePlugin.Machine.Shell

inductive Operation where
  | unless (orEmpty : Bool) (word : List Char)
  | when (orEmpty : Bool) (word : List Char)
  | assign (orEmpty : Bool) (word : List Char)
  | demand (orEmpty : Bool) (word : List Char)
  | length
  | trimStart (longest : Bool) (pattern : List Char)
  | trimEnd (longest : Bool) (pattern : List Char)
deriving DecidableEq, Repr

inductive Part where
  | literal (text : List Char) (quoted : Bool)
  | parameter (name : String) (operation : Option Operation) (quoted : Bool)
  | arithmetic (text : List Char) (quoted : Bool)
  | command (text : List Char) (quoted : Bool)
  | written (bytes : List UInt8) (quoted : Bool)
deriving DecidableEq, Repr

def Part.plain? : Part → Option (List Char)
  | .literal text false => some text
  | _ => none

abbrev WordParts := List Part

namespace WordParts

def command? (w : WordParts) : Option (List Char) :=
  w.findSome? fun part =>
    match part with
    | .command text _ => some text
    | _ => none

def fill (bytes : List UInt8) : WordParts → WordParts
  | [] => []
  | .command _ quoted :: rest => .written bytes quoted :: rest
  | part :: rest => part :: fill bytes rest

def isFilled (w : WordParts) : Bool :=
  w.any fun part =>
    match part with
    | .written .. => true
    | _ => false

end WordParts

inductive Redirect where
  | toFile (stream : Nat) (append : Bool) (target : WordParts)
  | fromFile (source : WordParts)
  | fromText (text : WordParts)
  | duplicate (stream other : Nat)
deriving DecidableEq, Repr

namespace Redirect

def word : Redirect → WordParts
  | toFile _ _ target => target
  | fromFile source => source
  | fromText text => text
  | duplicate .. => []

def withWord : Redirect → WordParts → Redirect
  | toFile stream append _, w => toFile stream append w
  | fromFile _, w => fromFile w
  | fromText _, w => fromText w
  | duplicate stream other, _ => duplicate stream other

end Redirect

inductive Script where
  | skip
  | simple (line : Nat) (assignments : List (String × WordParts)) (words : List WordParts)
      (redirects : List Redirect)
  | sequence (first second : Script)
  | both (first second : Script)
  | either (first second : Script)
  | negate (body : Script)
  | pipeline (first second : Script)
  | subshell (body : Script)
  | group (line : Nat) (body : Script) (redirects : List Redirect)
  | background (body : Script)
  | forEach (name : String) (words : Option (List WordParts)) (body : Script)
  | ifThen (condition yes no : Script)
  | loop (success : Bool) (condition body : Script)
  | choice (word : WordParts) (clauses : Script)
  | clause (patterns : List WordParts) (body others : Script)
  | define (name : String) (body : Script)
  | broken (line : Nat) (fault : String)
deriving DecidableEq, Repr

namespace Script

def words : Script → List WordParts
  | simple _ assignments words redirects =>
    words ++ redirects.map Redirect.word ++ assignments.map (·.2)
  | group _ _ redirects => redirects.map Redirect.word
  | forEach _ (some words) _ => words
  | choice word _ => [word]
  | _ => []

def withWords (new : List WordParts) : Script → Script
  | simple line assignments words redirects =>
    let targets := new.drop words.length
    let values := targets.drop redirects.length
    simple line (List.zipWith (fun a v => (a.1, v)) assignments values) (new.take words.length)
      (List.zipWith Redirect.withWord redirects targets)
  | group line body redirects => group line body (List.zipWith Redirect.withWord redirects new)
  | forEach name (some _) body => forEach name (some new) body
  | choice word clauses => choice (new.headD word) clauses
  | s => s

def command? (s : Script) : Option (List Char) := s.words.findSome? WordParts.command?

def fill (bytes : List UInt8) (s : Script) : Script := s.withWords (go s.words)
where
  go : List WordParts → List WordParts
  | [] => []
  | w :: rest => if w.command?.isSome then w.fill bytes :: rest else w :: go rest

def line : Script → Nat
  | simple line .. => line
  | group line .. => line
  | broken line _ => line
  | _ => 1

def isFilled (s : Script) : Bool := s.words.any WordParts.isFilled

end Script

end KubePlugin.Machine.Shell
