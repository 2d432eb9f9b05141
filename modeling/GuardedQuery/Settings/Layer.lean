import GuardedQuery.Settings.Variable

/-!
# Layers of settings

Settings come in layers: a file, and on top of it the table that the environment variables give
together. Where two layers have a table in one place, the tables are merged; otherwise the upper layer
counts.
-/

namespace GuardedQuery

namespace Document

/-- Sets a member of an object whose members are in order of their keys. -/
def putMember (key : Option String) (d : Document) :
    List (Option String × Document) → List (Option String × Document)
  | [] => [(key, d)]
  | (k, e) :: rest =>
    if k = key then (key, d) :: rest
    else if key.getD "" < k.getD "" then (key, d) :: (k, e) :: rest
    else (k, e) :: putMember key d rest

mutual

/-- Puts a layer on top of another. -/
def overlay : (lower upper : Document) → Document
  | .object ms, .object ns => .object (overlayMembers ms ns)
  | _, d => d

/-- Puts members on top of others. -/
def overlayMembers : (lower upper : List (Option String × Document)) →
    List (Option String × Document)
  | ms, [] => ms
  | ms, (key, d) :: rest =>
    let merged := match ms.lookup key with
      | some e => overlay e d
      | none => d
    overlayMembers (putMember key merged ms) rest

end

/-- A document with a value at some path. -/
def atPath (d : Document) : List String → Document
  | [] => d
  | key :: rest => .object [(some key, atPath d rest)]

/-- The table that environment variables give together; a later one is put on top of the earlier
ones. -/
def ofEnvironment (environment : List (String × String)) : Document :=
  environment.foldl (fun lower (name, text) =>
      match Variable.path? name with
      | some path => lower.overlay ((Variable.ofText text).atPath path)
      | none => lower)
    (.object [])

/-- Environment variables on top of a file. -/
def layered (file : Document) (environment : List (String × String)) : Document :=
  file.overlay (ofEnvironment environment)

end Document

end GuardedQuery
