import Mathlib.Data.List.Basic

namespace ChatRelay

/-!
# Ordered property trees

The tree type of Boost's `property_tree`: every node carries data and an
ordered list of keyed children, keys may repeat, and lookup returns the first
child under a key.  `put` overwrites the first such child or appends a new one.
-/

/-- A node with its own data and an ordered list of keyed children. -/
inductive PropertyTree (Key Data : Type) where
  | node :
      Data →
      List (Key × PropertyTree Key Data) →
      PropertyTree Key Data

namespace PropertyTree

variable {Key Data : Type}

/-- The data stored at the root. -/
def data : PropertyTree Key Data → Data
  | .node value _ => value

/-- The children of the root, in order. -/
def children :
    PropertyTree Key Data →
      List (Key × PropertyTree Key Data)
  | .node _ members => members

/-- A node without children. -/
def leaf
    (value : Data) :
    PropertyTree Key Data :=
  .node value []

/-- The tree a default constructor builds. -/
def empty [Inhabited Data] : PropertyTree Key Data :=
  .node default []

section Lookup

variable [DecidableEq Key]

/-- The first member under a key. -/
def lookup
    (key : Key) :
    List (Key × PropertyTree Key Data) →
      Option (PropertyTree Key Data)
  | [] =>
      none
  | (name, tree) :: rest =>
      if name = key then
        some tree
      else
        lookup key rest

/-- `ptree::find`: the first child under a key. -/
def find
    (tree : PropertyTree Key Data)
    (key : Key) :
    Option (PropertyTree Key Data) :=
  lookup key tree.children

/-- `ptree::get_child_optional`: follow a path of keys. -/
def getChild
    (tree : PropertyTree Key Data) :
    List Key → Option (PropertyTree Key Data)
  | [] =>
      some tree
  | key :: path =>
      match tree.find key with
      | none =>
          none
      | some child =>
          child.getChild path

/-- The data found at the end of a path. -/
def get
    (tree : PropertyTree Key Data)
    (path : List Key) :
    Option Data :=
  (tree.getChild path).map data

/-- Replace the first member under a key, or append a new member. -/
def putMember
    (key : Key)
    (update :
      Option (PropertyTree Key Data) → PropertyTree Key Data) :
    List (Key × PropertyTree Key Data) →
      List (Key × PropertyTree Key Data)
  | [] =>
      [(key, update none)]
  | (name, tree) :: rest =>
      if name = key then
        (name, update (some tree)) :: rest
      else
        (name, tree) :: putMember key update rest

/-- `ptree::put` with a one-key path: set the data of the child. -/
def put
    (tree : PropertyTree Key Data)
    (key : Key)
    (value : Data) :
    PropertyTree Key Data :=
  .node tree.data
    (putMember key
      (fun existing =>
        match existing with
        | none =>
            leaf value
        | some child =>
            .node value child.children)
      tree.children)

/-- `ptree::put_child` with a one-key path: set the whole child. -/
def putChild
    (tree : PropertyTree Key Data)
    (key : Key)
    (child : PropertyTree Key Data) :
    PropertyTree Key Data :=
  .node tree.data
    (putMember key (fun _ => child) tree.children)

/-- A one-key path reads the data of the first child under the key. -/
theorem get_singleton
    (tree : PropertyTree Key Data)
    (key : Key) :
    tree.get [key] = (tree.find key).map data := by
  unfold get getChild
  cases tree.find key <;> rfl

/-- A member that is put is found, and the others stay. -/
theorem isSome_lookup_putMember
    {key other : Key}
    {update :
      Option (PropertyTree Key Data) → PropertyTree Key Data}
    (members : List (Key × PropertyTree Key Data)) :
    (lookup other (putMember key update members)).isSome = true ↔
      key = other ∨ (lookup other members).isSome = true := by
  induction members with
  | nil =>
      by_cases sameKey : key = other <;>
        simp [putMember, lookup, sameKey]
  | cons first rest inductionHypothesis =>
      rcases first with ⟨name, child⟩
      by_cases isKey : name = key
      · subst isKey
        by_cases sameKey : name = other <;>
          simp [putMember, lookup, sameKey]
      · by_cases sameName : name = other
        · subst sameName
          simp [putMember, lookup, isKey]
        · simp [putMember, lookup, isKey, sameName, inductionHypothesis]

/-- The keys that are found after a `put`. -/
@[simp] theorem isSome_find_put
    (tree : PropertyTree Key Data)
    (key other : Key)
    (value : Data) :
    ((tree.put key value).find other).isSome = true ↔
      key = other ∨ (tree.find other).isSome = true :=
  isSome_lookup_putMember tree.children

end Lookup

end PropertyTree

end ChatRelay
