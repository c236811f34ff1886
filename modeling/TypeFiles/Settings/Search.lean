/-
# Searching for settings

A collection of documents is read from a mapping, but it is also looked for.  Some keys of the
mapping are no fields: they direct a search, to a directory with a file for each field, say, or to
the arguments of a command line.  What comes of the search is not decided here; it is given from
outside, as a `Search`.

| the search | the collection |
| --- | --- |
| finds entries | is read from them |
| objects | is refused for what it objects to |
| is broken off | is lost by accident |
| is left | is lost, and so is the run |

A mapping without directions is not searched for: its own entries are all there is.  That the
environment of the program says nothing about documents is taken for granted.
-/

import TypeFiles.Failure
import TypeFiles.Value

namespace TypeFiles

/-- What a search for settings comes to. -/
inductive Sought where
  | found (entries : List (Value × Value))
  | refused (faults : List Fault)
  | broken (a : Accident)
  | left (code : Nat)

/-- A search for settings: what it comes to for the entries of a mapping, directions among them. -/
abbrev Search := List (Value × Value) → Sought

namespace Search

/-- The keys that direct a search. -/
def directions : List String :=
  ["_case_sensitive", "_nested_model_default_partial_update", "_secrets_dir", "_build_sources"] ++
  (["prefix", "prefix_target", "file", "file_encoding", "ignore_empty", "nested_delimiter",
    "nested_max_split", "parse_none_str", "parse_enums"].map ("_env_" ++ ·)) ++
  ["prog_name", "parse_args", "settings_source", "parse_none_str", "hide_none_type", "avoid_json",
    "enforce_required", "use_class_docs_for_groups", "exit_on_error", "prefix", "flag_prefix_char",
    "implicit_flags", "ignore_unknown_args", "kebab_case", "shortcuts"].map ("_cli_" ++ ·)

/-- Whether a key directs a search. -/
def isDirection : Value → Bool
  | .text key => directions.contains key
  | _ => false

/-- Whether there are directions among some entries. -/
def isDirected (entries : List (Value × Value)) : Bool := entries.any fun e => isDirection e.1

/-- The entries that are no directions. -/
def undirected (entries : List (Value × Value)) : List (Value × Value) :=
  entries.filter fun e => !isDirection e.1

/-- The search that follows no directions. -/
def heedless : Search := fun entries => .found (undirected entries)

/-- The entries from which a collection is read: what is found by the directions among some
entries, or those entries themselves. -/
def entries (search : Search) (given : List (Value × Value)) :
    Except Failure (List (Value × Value)) :=
  if isDirected given then
    match search given with
    | .found entries => .ok entries
    | .refused faults => .error (.rejected ⟨.collection, faults⟩)
    | .broken a => .error (.accident a)
    | .left code => .error (.left code)
  else .ok given

end Search
end TypeFiles
