import Wireframe.Json.Reader

/-!
# Paths of requests

A client asks for a target, and `ofTarget` is the path that a request for it names: it counts from the
root, has no query and no escapes, and does not step back.
-/

namespace Wireframe.Path

/-- The parts of a path between its slashes. -/
def segments : List Char → List (List Char)
  | [] => [[]]
  | c :: rest =>
    if c = '/' then [] :: segments rest
    else
      match segments rest with
      | [] => [[c]]
      | s :: ss => (c :: s) :: ss

/-- Parts with slashes between them. -/
def joinSegments (parts : List (List Char)) : List Char := List.intercalate ['/'] parts

/-- Replaces `.`, which stands for the place where it is found, and `..`, which stands for the one
above; there is none above the root. -/
def resolveDots (parts : List (List Char)) : List (List Char) :=
  (parts.foldl (fun done part =>
    if part = ['.'] then done
    else if part = ['.', '.'] then (if done = [[]] then done else done.drop 1)
    else part :: done) []).reverse

/-- Replaces the escapes of characters in ASCII. Other escapes stay, since no path that is offered has
such characters. -/
def unescape : List Char → List Char
  | '%' :: a :: b :: rest =>
    match Json.hexValue? a, Json.hexValue? b with
    | some high, some low =>
      if high < 8 then Char.ofNat (16 * high + low) :: unescape rest
      else '%' :: unescape (a :: b :: rest)
    | _, _ => '%' :: unescape (a :: b :: rest)
  | c :: rest => c :: unescape rest
  | [] => []

/-- A path that counts from the root. -/
def fromRoot (s : List Char) : List Char := if s.head? = some '/' then s else '/' :: s

/-- The path that a request for a target names. -/
def ofTarget (target : String) : String :=
  let path := target.toList.takeWhile fun c => c != '?' && c != '#'
  String.ofList (unescape (joinSegments (resolveDots (segments (fromRoot path)))))

end Wireframe.Path
