import Formula.Yaml.Reader
import Formula.Proofs.Outcome
import Mathlib.Data.List.Nodup

/-!
# Keys come once

In a mapping that is read from a text no key comes twice, at no level.  It may come twice in
the text, under an anchor or through a merge.  But entries are put together one by one, and
an entry with a key that is there already takes the place of the earlier one.

## Main results

* `Scalar.same_self`: a scalar is one key with itself, even if it is not equal to itself.
* `Document.keyed_insert`: to give a key a value brings no key in twice.
* `Yaml.keyed_of_read`: a document that is read has every key once.
-/

namespace Formula

open Outcome

theorem Scalar.beq_self_or_isNaN (x : Float) : (x == x || x.isNaN) = true := by
  show (x.toModel.unpack.compare x.toModel.unpack == some .eq || x.toModel.unpack.isNaN) = true
  cases x.toModel.unpack with
  | notANumber => rfl
  | infinity sign => cases sign <;> rfl
  | zero sign => rfl
  | finite sign mantissa exponent =>
      have hequal : (compare exponent exponent).then (compare mantissa mantissa) = .eq := by simp
      cases sign with
      | negative =>
          show (some (((compare exponent exponent).then (compare mantissa mantissa)).swap) ==
            some .eq || _) = true
          rw [hequal]
          rfl
      | positive =>
          show (some ((compare exponent exponent).then (compare mantissa mantissa)) ==
            some .eq || _) = true
          rw [hequal]
          rfl

/-- A scalar is one key with itself. -/
theorem Scalar.same_self (key : Scalar) : key.same key = true := by
  cases key with
  | float x => simpa [same] using beq_self_or_isNaN x
  | bool b => simp [same, units?]
  | int n => simp [same, units?]
  | moment m =>
      simp only [same, Moment.same]
      cases m.offset <;> simp
  | null => rfl
  | text t => simp [same]
  | codes ns => simp [same]
  | octets os => simp [same]
  | date d => simp [same]

namespace Document

/-- No two of some keys are the same. -/
def Distinct (keys : List Scalar) : Prop := keys.Pairwise fun key later => key.same later = false

/-- `document.Keyed` says that no mapping in the document has a key twice. -/
inductive Keyed : Document → Prop where
  | scalar (s : Scalar) : Keyed (.scalar s)
  | list {items : List Document} : (∀ item ∈ items, Keyed item) → Keyed (.list items)
  | mapping {entries : List (Scalar × Document)} : Distinct (entries.map Prod.fst) →
    (∀ entry ∈ entries, Keyed entry.2) → Keyed (.mapping entries)
  | set (members : List Scalar) : Keyed (.set members)
  | pair {first second : Document} : Keyed first → Keyed second → Keyed (.pair first second)
  | surrounding (isList : Bool) : Keyed (.surrounding isList)
  | limits (limits : Limits) : Keyed (.limits limits)

/-- Keys no two of which are the same are no two equal. -/
theorem Distinct.nodup {keys : List Scalar} (h : Distinct keys) : keys.Nodup := by
  refine h.imp ?_
  rintro key _ hsame rfl
  rw [Scalar.same_self] at hsame
  cases hsame

theorem Keyed.nodup {entries : List (Scalar × Document)} (h : (Document.mapping entries).Keyed) :
    (entries.map Prod.fst).Nodup := by
  obtain _ | _ | ⟨hdistinct, _⟩ := h
  exact hdistinct.nodup

theorem Keyed.of_mem {entries : List (Scalar × Document)} {key : Scalar} {value : Document}
    (h : (Document.mapping entries).Keyed) (hmem : (key, value) ∈ entries) : value.Keyed := by
  obtain _ | _ | ⟨_, hvalues⟩ := h
  exact hvalues _ hmem

section Insert

variable {entries : List (Scalar × Document)} {key : Scalar} {value : Document}

/-- A key that is there keeps its place, and another comes behind all. -/
theorem map_fst_insert (entries : List (Scalar × Document)) (key : Scalar) (value : Document) :
    (insert entries key value).map Prod.fst =
      if entries.any (·.1.same key) then entries.map Prod.fst
      else entries.map Prod.fst ++ [key] := by
  rw [insert]
  split
  · rw [List.map_map]
    refine List.map_congr_left fun entry _ => ?_
    show (if entry.1.same key then (entry.1, value) else entry).1 = entry.1
    split <;> rfl
  · rw [List.map_append]
    rfl

theorem keyed_insert (hentries : (mapping entries).Keyed) (hvalue : value.Keyed) :
    (mapping (insert entries key value)).Keyed := by
  obtain _ | _ | ⟨hdistinct, hvalues⟩ := hentries
  constructor
  · rw [map_fst_insert]
    split
    · exact hdistinct
    · rename_i hnew
      refine List.pairwise_append.2 ⟨hdistinct, List.pairwise_singleton _ _, ?_⟩
      intro earlier hearlier later hlater
      obtain ⟨entry, hentry, rfl⟩ := List.mem_map.1 hearlier
      rw [List.mem_singleton.1 hlater]
      simp only [List.any_eq_true, not_exists, not_and, Bool.not_eq_true] at hnew
      exact hnew entry hentry
  · intro entry hentry
    rw [insert] at hentry
    split at hentry
    · obtain ⟨earlier, hearlier, rfl⟩ := List.mem_map.1 hentry
      split
      · exact hvalue
      · exact hvalues earlier hearlier
    · rcases List.mem_append.1 hentry with hearlier | hlast
      · exact hvalues entry hearlier
      · rw [List.mem_singleton.1 hlast]
        exact hvalue

end Insert

end Document

/-! ## Documents that are read -/

namespace Yaml

theorem eq_ok_of_both {α β : Type} {x : Outcome α} {y : Outcome β} {a : α} {b : β}
    (h : both x y = .ok (a, b)) : x = .ok a ∧ y = .ok b := by
  unfold both at h
  split at h <;> cases h
  exact ⟨rfl, rfl⟩

/-- Values in a row are the values of the row. -/
theorem mem_of_together {α : Type} {outcomes : List (Outcome α)} {values : List α}
    (h : together outcomes = .ok values) : ∀ value ∈ values, .ok value ∈ outcomes := by
  induction outcomes generalizing values with
  | nil =>
      cases h
      exact nofun
  | cons outcome outcomes ih =>
      obtain ⟨⟨value, later⟩, hboth, rfl⟩ := exists_of_map h
      obtain ⟨rfl, hlater⟩ := eq_ok_of_both hboth
      refine List.forall_mem_cons.2 ⟨List.mem_cons_self, fun other hother => ?_⟩
      exact List.mem_cons_of_mem _ (ih hlater other hother)

/-- Values in a row, each with a property that the outcomes of the row have. -/
theorem forall_of_together {α γ : Type} {nodes : List γ} {part : γ → Outcome α}
    {property : α → Prop} {values : List α} (h : together (nodes.map part) = .ok values)
    (hpart : ∀ node value, part node = .ok value → property value) :
    ∀ value ∈ values, property value := by
  intro value hvalue
  obtain ⟨node, _, hnode⟩ := List.mem_map.1 (mem_of_together h value hvalue)
  exact hpart node value hnode

theorem keyed_collect {entries : List (Scalar × Document)}
    (h : ∀ entry ∈ entries, entry.2.Keyed) : (Document.mapping (collect entries)).Keyed := by
  have hfold (sofar : List (Scalar × Document)) (hsofar : (Document.mapping sofar).Keyed) :
      (Document.mapping (entries.foldl
        (fun sofar entry => Document.insert sofar entry.1 entry.2) sofar)).Keyed := by
    induction entries generalizing sofar with
    | nil => exact hsofar
    | cons entry entries ih =>
        obtain ⟨hentry, hlater⟩ := List.forall_mem_cons.1 h
        exact ih hlater _ (Document.keyed_insert hsofar hentry)
  exact hfold [] (.mapping .nil nofun)

section Parts

variable {graph : Graph} {level : Nat} {part : Node → Outcome Document}

/-- Entries that are put together have every key once, if their values have. -/
theorem keyed_entries (hpart : ∀ node document, part node = .ok document → document.Keyed)
    {number : Nat} {nodes : List (Node × Node)} {entries : List (Scalar × Document)}
    (h : (do
      let entries ← atLevel (level + 1) (graph.allEntries number nodes)
      (together (entries.map fun (key, value) =>
        both (atLevel (level + 1) (graph.key key)) (part value))).map collect) = .ok entries) :
    (Document.mapping entries).Keyed := by
  obtain ⟨merged, _, hmerged⟩ := exists_of_bind h
  obtain ⟨read, hread, rfl⟩ := exists_of_map hmerged
  refine keyed_collect (forall_of_together hread ?_)
  rintro ⟨key, value⟩ ⟨k, v⟩ hboth
  exact hpart value v (eq_ok_of_both hboth).2

/-- So has a pair. -/
theorem keyed_pair (hpart : ∀ node document, part node = .ok document → document.Keyed)
    {item : Node} {document : Document}
    (h : (match graph.follow item with
      | .mapping _ _ [(key, value)] =>
        (both (part key) (part value)).map fun (k, v) => .pair k v
      | _ => .error (level + 1, .wrongKind)) = Except.ok document) : document.Keyed := by
  split at h
  · rename_i key value _
    obtain ⟨⟨k, v⟩, hboth, rfl⟩ := exists_of_map h
    obtain ⟨hkey, hvalue⟩ := eq_ok_of_both hboth
    exact .pair (hpart key k hkey) (hpart value v hvalue)
  · cases h

end Parts

/-- What a node spells has every key once. -/
theorem keyed_document {graph : Graph} {fuel level : Nat} {around : List Nat} {node : Node}
    {document : Document} (h : graph.document fuel around level node = .ok document) :
    document.Keyed := by
  induction fuel generalizing around level node document with
  | zero => cases h
  | succ fuel ih =>
      have hpart (around : List Nat) (node : Node) (document : Document)
          (h : graph.document fuel around (level + 1) node = .ok document) : document.Keyed :=
        ih h
      unfold Graph.document at h
      simp only at h
      split at h
      -- a scalar
      · obtain ⟨scalar, _, rfl⟩ := exists_of_map (eq_ok_of_mapError h)
        exact .scalar scalar
      -- a sequence
      · split at h
        · cases h
          exact .surrounding true
        · obtain ⟨items, hitems, rfl⟩ := exists_of_map h
          exact .list (forall_of_together hitems (hpart _))
      -- a mapping
      · split at h
        · cases h
          exact .surrounding false
        · obtain ⟨entries, hentries, rfl⟩ := exists_of_map h
          exact keyed_entries (hpart _) hentries
      -- a set
      · obtain ⟨entries, _, rfl⟩ := exists_of_map h
        exact .set _
      -- an ordered mapping
      · split at h
        · cases h
          exact .surrounding true
        · obtain ⟨items, hitems, rfl⟩ := exists_of_map h
          exact .list (forall_of_together hitems fun _ _ => keyed_pair (hpart _))
      -- pairs
      · split at h
        · cases h
          exact .surrounding true
        · obtain ⟨items, hitems, rfl⟩ := exists_of_map h
          exact .list (forall_of_together hitems fun _ _ => keyed_pair (hpart _))
      -- a node of another kind
      · cases h

/-- **Keys.**  In a document that is read, no mapping has a key twice. -/
theorem keyed_of_read {text : Text} {document : Document} (h : read text = .ok (some document)) :
    document.Keyed := by
  unfold read at h
  simp only at h
  split at h
  · cases h
  · obtain ⟨graph, _, hgraph⟩ := exists_of_bind h
    cases graph with
    | none => cases hgraph
    | some graph =>
        obtain ⟨found, hfound, hsame⟩ := exists_of_bind hgraph
        cases hsame
        exact keyed_document (eq_ok_of_mapError hfound)

/-- Nor has one in the value of a text. -/
theorem keyed_of_load {text : Text} {document : Document} (h : load text = .ok document) :
    document.Keyed := by
  obtain ⟨found, hfound, rfl⟩ := exists_of_map h
  cases found with
  | none => exact .scalar .null
  | some document => exact keyed_of_read hfound

end Yaml

end Formula
