import EndpointHooks.Toml.Tree

/-! What may be added to a table. A dotted key makes the tables on its way and may enter only those
that were never defined by themselves; a header may enter every table and the last of a list of
tables. A name is given once. -/

namespace EndpointHooks.Toml

/-- What a path of keys is part of: a header, a dotted key on a line of its own, or a dotted key
inside braces. -/
inductive PathUse where
  | header
  | dotted
  | dottedInBraces
  deriving DecidableEq

/-- The form of the tables that a path makes on its way. -/
def PathUse.form : PathUse → TableForm
  | header => .parent
  | dotted => .dotted
  | dottedInBraces => .dottedInBraces

def PathUse.enters (path : PathUse) (form : TableForm) : Bool :=
  match path with
  | header => !form.isInline
  | dotted => !form.isInline && form.isImplicit
  | dottedInBraces => form.isInline && form.isImplicit

def changeLast {α β : Type} (change : α → Option (α × β)) : List α → Option (List α × β)
  | [] => none
  | [a] => (change a).map fun p => ([p.1], p.2)
  | a :: as => (changeLast change as).map fun p => (a :: p.1, p.2)

/-- Changes the entries of the table at the end of a path, making the tables that are missing on the
way. The change also sees the form of the table and gives a result. -/
def changeAt {β : Type} (use : PathUse) (change : TableForm → Entries → Option (Entries × β)) :
    List Key → TableForm → Entries → Option (Entries × β)
  | [], form, entries => change form entries
  | key :: path, _, entries =>
    match entries.find? key.name with
    | none => do
      let (made, result) ← changeAt use change path use.form []
      some (entries ++ [(key, .table use.form none made)], result)
    | some (.table form span inner) =>
      if use.enters form then do
        let (changed, result) ← changeAt use change path form inner
        some (entries.replace key.name (.table form span changed), result)
      else none
    | some (.tables items) =>
      if use = .dottedInBraces then none
      else do
        let (changed, result) ← changeLast
          (fun
            | .table form span inner =>
              (changeAt use change path form inner).map fun p => (.table form span p.1, p.2)
            | _ => none)
          items
        some (entries.replace key.name (.tables changed), result)
    | some _ => none

def addNew (key : Key) (node : Node) (entries : Entries) : Option Entries :=
  match entries.find? key.name with
  | none => some (entries ++ [(key, node)])
  | some _ => none

/-- Adds the node of a key, which is dotted if its path is not empty. The table at the end of the
path has to be one that a dotted key made, exactly if the key is dotted. -/
def addLine (use : PathUse) (path : List Key) (key : Key) (node : Node) (form : TableForm)
    (entries : Entries) : Option Entries :=
  (changeAt use
    (fun last entries =>
      if last.isDotted = path.isEmpty then none
      else (addNew key node entries).map fun changed => (changed, ()))
    path form entries).map Prod.fst

/-- Takes away the table that a header defines. It may be there only as the parent of other tables,
which it keeps. -/
def takeParent (path : List Key) (key : Key) (root : Entries) : Option (Entries × Entries) :=
  changeAt .header
    (fun _ entries =>
      match entries.find? key.name with
      | none => some (entries, [])
      | some (.table .parent _ inner) => some (entries.erase key.name, inner)
      | some _ => none)
    path .header root

def addTable (path : List Key) (key : Key) (node : Node) (root : Entries) : Option Entries :=
  (changeAt .header
    (fun _ entries => (addNew key node entries).map fun changed => (changed, ()))
    path .header root).map Prod.fst

/-- Makes sure that a double-bracket header finds a list of tables. -/
def openTables (path : List Key) (key : Key) (root : Entries) : Option Entries :=
  (changeAt .header
    (fun _ entries =>
      match entries.find? key.name with
      | none => some (entries ++ [(key, .tables [])], ())
      | some (.tables _) => some (entries, ())
      | some _ => none)
    path .header root).map Prod.fst

def addToTables (path : List Key) (key : Key) (node : Node) (root : Entries) : Option Entries :=
  (changeAt .header
    (fun _ entries =>
      match entries.find? key.name with
      | some (.tables items) => some (entries.replace key.name (.tables (items ++ [node])), ())
      | _ => none)
    path .header root).map Prod.fst

end EndpointHooks.Toml
