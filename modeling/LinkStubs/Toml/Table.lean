/-!
Tables of a TOML document, and the rules for naming one more than once.
-/

namespace LinkStubs.Toml

/-- How a table came about: under a header of its own, on the way to a header, or through keys with
dots. -/
inductive Origin where
  | header
  | implied
  | dotted
  deriving DecidableEq, Repr

/-- A value of a document. Of an array of tables only the last table can still grow. -/
inductive Node where
  | text (s : String)
  | other
  | table (origin : Origin) (items : List (String × Node))
  | tables (last : List (String × Node))
  deriving Repr

abbrev Items := List (String × Node)

def replaceItem (items : Items) (key : String) (value : Node) : Items :=
  items.map (fun item => if item.1 = key then (key, value) else item)

/-- Changes the table that a path of keys leads to, and makes the tables on the way that are
missing. An array of tables stands for its last table; keys with dots do not lead into a table with
a header. -/
def descend (byDots : Bool) (change : Origin → Items → Option Items) (origin : Origin)
    (items : Items) : List String → Option Items
  | [] => change origin items
  | key :: keys =>
    match items.lookup key with
    | none =>
      let origin := if byDots then .dotted else .implied
      (descend byDots change origin [] keys).map
        (fun inner => items ++ [(key, .table origin inner)])
    | some (.table origin inner) =>
      if byDots && origin = .header then none
      else
        (descend byDots change origin inner keys).map
          (fun inner => replaceItem items key (.table origin inner))
    | some (.tables inner) =>
      (descend byDots change .header inner keys).map
        (fun inner => replaceItem items key (.tables inner))
    | some _ => none

def putValue (root : Items) (place path : List String) (key : String) (value : Node) :
    Option Items :=
  let put (origin : Origin) (items : Items) : Option Items :=
    if !path.isEmpty && origin ≠ .dotted then none
    else if (items.lookup key).isSome then none
    else some (items ++ [(key, value)])
  descend false (fun origin items => descend true put origin items path) .header root place

/-- A header for the table at a path; a table has one header at most. -/
def openTable (root : Items) (path : List String) (key : String) : Option Items :=
  descend false
    (fun _ items =>
      match items.lookup key with
      | none => some (items ++ [(key, .table .header [])])
      | some (.table .implied inner) => some (replaceItem items key (.table .header inner))
      | some _ => none)
    .header root path

/-- A header for one more table of the array at a path. -/
def openTables (root : Items) (path : List String) (key : String) : Option Items :=
  descend false
    (fun _ items =>
      match items.lookup key with
      | none => some (items ++ [(key, .tables [])])
      | some (.tables _) => some (replaceItem items key (.tables []))
      | some _ => none)
    .header root path

end LinkStubs.Toml
