/-!
# Xml

XML elements as trees: attributes, the first descendant of a name in document
order, and erasing a descendant by its path.

The main result is `countIn_eraseIn`: erasing the first element of a name
leaves exactly one outermost element of that name less, with everything
nested in it.  This module depends only on the Lean 4 core library.
-/

namespace Xml

/-! ## Trees -/

structure XmlQualifiedName where
  localName : String
  namespaceURI : String
deriving DecidableEq, Repr

/-- `name` is the name as it is written, with its qualifier. -/
structure XmlAttribute where
  name : String
  qualifiedName : XmlQualifiedName
  value : String
deriving DecidableEq, Repr

/-- A node: an element, or text, a comment and so on. -/
inductive XmlNode where
  | element (name : XmlQualifiedName) (attributes : List XmlAttribute) (childNodes : List XmlNode)
  | other (kind : String)

mutual

def XmlNode.decEq : (x y : XmlNode) → Decidable (x = y)
  | .other k, .other k' => decidable_of_iff (k = k') (by simp)
  | .element n as cs, .element n' as' cs' =>
      match decEqNodes cs cs' with
      | .isTrue h => decidable_of_iff (n = n' ∧ as = as') (by simp [h])
      | .isFalse h => .isFalse (by simp [h])
  | .element .., .other _ => .isFalse (by simp)
  | .other _, .element .. => .isFalse (by simp)

def decEqNodes : (xs ys : List XmlNode) → Decidable (xs = ys)
  | [], [] => .isTrue rfl
  | x :: xs, y :: ys =>
      match XmlNode.decEq x y, decEqNodes xs ys with
      | .isTrue h, .isTrue h' => .isTrue (by rw [h, h'])
      | .isFalse h, _ => .isFalse (by simp [h])
      | _, .isFalse h => .isFalse (by simp [h])
  | [], _ :: _ => .isFalse (by simp)
  | _ :: _, [] => .isFalse (by simp)

end

instance : DecidableEq XmlNode := XmlNode.decEq

structure XmlElement where
  name : XmlQualifiedName
  attributes : List XmlAttribute := []
  childNodes : List XmlNode := []
deriving DecidableEq

/-- The children of a node, of which only an element has any. -/
def XmlNode.childNodes : XmlNode → List XmlNode
  | .element _ _ childNodes => childNodes
  | .other _ => []

/-! ## Attributes -/

namespace XmlElement

/-- `GetAttribute(name)`: the empty text when there is no such attribute. -/
def getAttribute (element : XmlElement) (name : String) : String :=
  ((element.attributes.find? (·.name == name)).map (·.value)).getD ""

/-- `GetAttribute(localName, namespaceURI)`. -/
def getAttributeNS (element : XmlElement) (name : XmlQualifiedName) : String :=
  ((element.attributes.find? (·.qualifiedName == name)).map (·.value)).getD ""

end XmlElement

/-! ## Descendants by name -/

/-- The path of the next sibling. -/
def nextSibling : List Nat → List Nat
  | [] => []
  | i :: path => (i + 1) :: path

mutual

/-- The path to the first element of a name among a node and its descendants,
in document order. -/
def XmlNode.first (name : XmlQualifiedName) : XmlNode → Option (List Nat)
  | .element n _ childNodes => if n = name then some [] else firstIn name childNodes
  | .other _ => none

/-- The same for a list of siblings. -/
def firstIn (name : XmlQualifiedName) : List XmlNode → Option (List Nat)
  | [] => none
  | node :: nodes =>
      match node.first name with
      | some path => some (0 :: path)
      | none => (firstIn name nodes).map nextSibling

end

mutual

/-- The number of outermost elements of a name. -/
def XmlNode.count (name : XmlQualifiedName) : XmlNode → Nat
  | .element n _ childNodes => if n = name then 1 else countIn name childNodes
  | .other _ => 0

def countIn (name : XmlQualifiedName) : List XmlNode → Nat
  | [] => 0
  | node :: nodes => node.count name + countIn name nodes

end

mutual

/-- Erase the descendant at a path. -/
def XmlNode.eraseAt : List Nat → XmlNode → XmlNode
  | path, .element n attributes childNodes => .element n attributes (eraseIn path childNodes)
  | _, .other kind => .other kind

def eraseIn : List Nat → List XmlNode → List XmlNode
  | _, [] => []
  | [], nodes => nodes
  | [0], _ :: nodes => nodes
  | 0 :: i :: path, node :: nodes => node.eraseAt (i :: path) :: nodes
  | (k + 1) :: path, node :: nodes => node :: eraseIn (k :: path) nodes

end

variable {name : XmlQualifiedName}

/-! ## Paths -/

/-- A path among siblings starts with a position. -/
theorem ne_nil_of_firstIn {nodes : List XmlNode} {path : List Nat}
    (h : firstIn name nodes = some path) : path ≠ [] := by
  induction nodes generalizing path with
  | nil => simp [firstIn] at h
  | cons node nodes ih =>
      rw [firstIn] at h
      cases hfirst : node.first name with
      | some path' =>
          rw [hfirst] at h
          obtain rfl := Option.some.inj h
          exact List.cons_ne_nil 0 path'
      | none =>
          rw [hfirst, Option.map_eq_some_iff] at h
          obtain ⟨path', hpath', rfl⟩ := h
          obtain ⟨i, rest, rfl⟩ := List.exists_cons_of_ne_nil (ih hpath')
          exact List.cons_ne_nil (i + 1) rest

/-- A path that starts at the first sibling goes on in it. -/
theorem first_of_firstIn_zero {nodes : List XmlNode} {path : List Nat}
    (h : firstIn name nodes = some (0 :: path)) :
    ∃ node rest, nodes = node :: rest ∧ node.first name = some path := by
  cases nodes with
  | nil => simp [firstIn] at h
  | cons node rest =>
      rw [firstIn] at h
      cases hfirst : node.first name with
      | some path' =>
          rw [hfirst, Option.some.injEq, List.cons.injEq] at h
          obtain ⟨-, rfl⟩ := h
          exact ⟨node, rest, rfl, hfirst⟩
      | none =>
          rw [hfirst, Option.map_eq_some_iff] at h
          obtain ⟨path', hpath', hnext⟩ := h
          obtain ⟨i, path'', rfl⟩ := List.exists_cons_of_ne_nil (ne_nil_of_firstIn hpath')
          simp [nextSibling] at hnext

/-- A path that leads below a node goes on among its children. -/
theorem firstIn_of_first_cons {node : XmlNode} {i : Nat} {path : List Nat}
    (h : node.first name = some (i :: path)) :
    ∃ n attributes childNodes, node = .element n attributes childNodes ∧
      firstIn name childNodes = some (i :: path) := by
  cases node with
  | other kind => simp [XmlNode.first] at h
  | element n attributes childNodes =>
      rw [XmlNode.first] at h
      split at h
      · simp at h
      · exact ⟨n, attributes, childNodes, rfl, h⟩

/-! ## Finding and counting -/

mutual

theorem XmlNode.first_eq_none_iff : (node : XmlNode) →
    (node.first name = none ↔ node.count name = 0)
  | .other kind => by simp [XmlNode.first, XmlNode.count]
  | .element n attributes childNodes => by
      rw [XmlNode.first, XmlNode.count]
      split
      · simp
      · exact firstIn_eq_none_iff childNodes

/-- There is no first element of a name exactly when there is none at all. -/
theorem firstIn_eq_none_iff : (nodes : List XmlNode) →
    (firstIn name nodes = none ↔ countIn name nodes = 0)
  | [] => by simp [firstIn, countIn]
  | node :: nodes => by
      have hnode := XmlNode.first_eq_none_iff node
      have hnodes := firstIn_eq_none_iff nodes
      rw [firstIn, countIn]
      cases hfirst : node.first name with
      | some path =>
          have hcount : node.count name ≠ 0 := fun hzero => by
            rw [hnode.mpr hzero] at hfirst
            cases hfirst
          simp [hcount]
      | none => simp [hnode.mp hfirst, hnodes]

end

/-! ## Erasing -/

mutual

theorem XmlNode.count_eraseAt : (node : XmlNode) → (path : List Nat) → path ≠ [] →
    node.first name = some path → (node.eraseAt path).count name + 1 = node.count name
  | .other kind, path, _, h => by simp [XmlNode.first] at h
  | .element n attributes childNodes, path, hpath, h => by
      rw [XmlNode.first] at h
      split at h
      · exact absurd (Option.some.inj h).symm hpath
      · next hn =>
          rw [XmlNode.eraseAt, XmlNode.count, XmlNode.count, if_neg hn, if_neg hn]
          exact countIn_eraseIn childNodes path h

/-- Erasing the first element of a name leaves one outermost one less. -/
theorem countIn_eraseIn : (nodes : List XmlNode) → (path : List Nat) →
    firstIn name nodes = some path → countIn name (eraseIn path nodes) + 1 = countIn name nodes
  | [], path, h => by simp [firstIn] at h
  | node :: nodes, path, h => by
      rw [firstIn] at h
      cases hfirst : node.first name with
      | some path' =>
          rw [hfirst] at h
          obtain rfl := Option.some.inj h
          cases path' with
          | nil =>
              have hcount : node.count name = 1 := by
                cases node with
                | other kind => simp [XmlNode.first] at hfirst
                | element n attributes childNodes =>
                    rw [XmlNode.first] at hfirst
                    split at hfirst
                    · next hn => rw [XmlNode.count, if_pos hn]
                    · exact absurd rfl (ne_nil_of_firstIn hfirst)
              rw [eraseIn, countIn, hcount, Nat.add_comm]
          | cons i rest =>
              have hnode := XmlNode.count_eraseAt node (i :: rest) (List.cons_ne_nil i rest) hfirst
              rw [eraseIn, countIn, countIn]
              omega
      | none =>
          rw [hfirst, Option.map_eq_some_iff] at h
          obtain ⟨path', hpath', rfl⟩ := h
          obtain ⟨i, rest, rfl⟩ := List.exists_cons_of_ne_nil (ne_nil_of_firstIn hpath')
          have hnodes := countIn_eraseIn nodes (i :: rest) hpath'
          rw [nextSibling, eraseIn, countIn, countIn]
          omega

end

/-! ## Elements -/

namespace XmlElement

variable (element : XmlElement)

/-- The first node of `GetElementsByTagName`, as a path below the element;
none when the list is empty. -/
def firstByTagName (name : XmlQualifiedName) : Option (List Nat) := firstIn name element.childNodes

/-- The number of outermost elements of a name below the element. -/
def countByTagName (name : XmlQualifiedName) : Nat := countIn name element.childNodes

/-- The element without the node at a path. -/
def eraseAt (path : List Nat) : XmlElement :=
  { element with childNodes := eraseIn path element.childNodes }

/-- The element without its first descendant of a name. -/
def eraseFirst (name : XmlQualifiedName) : XmlElement :=
  match element.firstByTagName name with
  | some path => element.eraseAt path
  | none => element

theorem firstByTagName_eq_none_iff :
    element.firstByTagName name = none ↔ element.countByTagName name = 0 :=
  firstIn_eq_none_iff element.childNodes

theorem eraseFirst_of_none (h : element.firstByTagName name = none) :
    element.eraseFirst name = element := by
  rw [eraseFirst, h]

theorem eraseFirst_of_some {path : List Nat} (h : element.firstByTagName name = some path) :
    element.eraseFirst name = element.eraseAt path := by
  rw [eraseFirst, h]

@[simp] theorem name_eraseFirst : (element.eraseFirst name).name = element.name := by
  unfold eraseFirst
  split <;> rfl

@[simp] theorem attributes_eraseFirst :
    (element.eraseFirst name).attributes = element.attributes := by
  unfold eraseFirst
  split <;> rfl

/-- Erasing the first descendant of a name takes one off the count. -/
theorem countByTagName_eraseFirst :
    (element.eraseFirst name).countByTagName name = element.countByTagName name - 1 := by
  cases h : element.firstByTagName name with
  | none =>
      have hzero := element.firstByTagName_eq_none_iff.mp h
      rw [element.eraseFirst_of_none h, hzero]
  | some path =>
      have hcount := countIn_eraseIn element.childNodes path h
      rw [element.eraseFirst_of_some h]
      change countIn name (eraseIn path element.childNodes) = countIn name element.childNodes - 1
      omega

end XmlElement

end Xml
