import Mathlib.Data.List.AList
import Mathlib.Data.String.Basic
import OvsdbMonitor.Float

/-!
# Decoded JSON, Go maps and OVSDB atoms

The monitor code never sees bytes: every stored row goes through `json.Unmarshal` into a
`map[string]interface{}`, and every column value is then an `interface{}` holding one of
`encoding/json`'s shapes.  `Json` is that decoded form, numbers included: each is the `float64`
the literal rounds to (`Float64`).

A Go map is modelled by Mathlib's `AList`: the entries in iteration order, with distinct keys
(`GoMap`).  Go leaves the iteration order unspecified, so a statement over every `GoMap` is a
statement over every order.  The row maps of the monitor hold `Value`s: a decoded JSON value,
or one of the `*libovsdb.OvsSet` / `*libovsdb.OvsMap` deltas the diff engine stores.

`fmtV` is Go's `%v` verb on a decoded JSON value; the handler keys monitors with it.
-/

namespace OvsdbMonitor

/-- A JSON document as `encoding/json` decodes it into an `interface{}`. -/
inductive Json where
  /-- `nil` -/
  | null
  /-- `bool` -/
  | bool (b : Bool)
  /-- `float64` -/
  | number (n : Float64)
  /-- `string` -/
  | string (s : String)
  /-- `[]interface{}` -/
  | array (xs : List Json)
  /-- `map[string]interface{}`, fields in document order -/
  | object (fields : List (String × Json))
  deriving Repr, Inhabited

namespace Json

mutual
/-- Structural equality of decoded JSON (`reflect.DeepEqual` on the shapes above). -/
def decEq : (a b : Json) → Decidable (a = b)
  | null, b => match b with
    | null => isTrue rfl
    | bool _ | number _ | string _ | array _ | object _ => isFalse nofun
  | bool x, b => match b with
    | bool y => if h : x = y then isTrue (h ▸ rfl) else isFalse fun e => h (by injection e)
    | null | number _ | string _ | array _ | object _ => isFalse nofun
  | number x, b => match b with
    | number y => if h : x = y then isTrue (h ▸ rfl) else isFalse fun e => h (by injection e)
    | null | bool _ | string _ | array _ | object _ => isFalse nofun
  | string x, b => match b with
    | string y => if h : x = y then isTrue (h ▸ rfl) else isFalse fun e => h (by injection e)
    | null | bool _ | number _ | array _ | object _ => isFalse nofun
  | array xs, b => match b with
    | array ys => match decEqList xs ys with
      | isTrue h => isTrue (h ▸ rfl)
      | isFalse h => isFalse fun e => h (by injection e)
    | null | bool _ | number _ | string _ | object _ => isFalse nofun
  | object xs, b => match b with
    | object ys => match decEqFields xs ys with
      | isTrue h => isTrue (h ▸ rfl)
      | isFalse h => isFalse fun e => h (by injection e)
    | null | bool _ | number _ | string _ | array _ => isFalse nofun
/-- Equality of element lists, for `decEq`. -/
def decEqList : (xs ys : List Json) → Decidable (xs = ys)
  | [], [] => isTrue rfl
  | x :: xs, y :: ys =>
    match decEq x y, decEqList xs ys with
    | isTrue h₁, isTrue h₂ => isTrue (h₁ ▸ h₂ ▸ rfl)
    | isFalse h₁, _ => isFalse fun e => h₁ (List.cons.inj e).1
    | _, isFalse h₂ => isFalse fun e => h₂ (List.cons.inj e).2
  | [], _ :: _ | _ :: _, [] => isFalse nofun
/-- Equality of field lists, for `decEq`. -/
def decEqFields : (xs ys : List (String × Json)) → Decidable (xs = ys)
  | [], [] => isTrue rfl
  | (k, x) :: xs, (l, y) :: ys =>
    if hk : k = l then
      match decEq x y, decEqFields xs ys with
      | isTrue h₁, isTrue h₂ => isTrue (hk ▸ h₁ ▸ h₂ ▸ rfl)
      | isFalse h₁, _ => isFalse fun e => h₁ (Prod.mk.inj (List.cons.inj e).1).2
      | _, isFalse h₂ => isFalse fun e => h₂ (List.cons.inj e).2
    else isFalse fun e => hk (Prod.mk.inj (List.cons.inj e).1).1
  | [], _ :: _ | _ :: _, [] => isFalse nofun
end

instance : DecidableEq Json := decEq

end Json

/-! ### Go maps -/

/-- A Go map `map[K]V`: its entries in iteration order, keys distinct. -/
abbrev GoMap (K V : Type) := AList fun _ : K => V

/-- `reflect.DeepEqual` on maps, decided on the entries so that it evaluates. -/
instance GoMap.decEq {K V : Type} [DecidableEq K] [DecidableEq V] : DecidableEq (GoMap K V) :=
  fun a b => decidable_of_iff (a.entries = b.entries) ⟨AList.ext, congrArg _⟩

section GoMap

variable {K V : Type} [DecidableEq K]

@[simp] theorem GoMap.lookup_insert_self (m : GoMap K V) (k : K) (v : V) :
    (m.insert k v).lookup k = some v :=
  AList.lookup_insert m

theorem GoMap.lookup_insert_of_ne (m : GoMap K V) {k k' : K} (v : V) (h : k' ≠ k) :
    (m.insert k v).lookup k' = m.lookup k' :=
  AList.lookup_insert_ne h

@[simp] theorem GoMap.lookup_erase_self (m : GoMap K V) (k : K) : (m.erase k).lookup k = none :=
  AList.lookup_erase k m

theorem GoMap.lookup_erase_of_ne (m : GoMap K V) {k k' : K} (h : k' ≠ k) :
    (m.erase k).lookup k' = m.lookup k' :=
  AList.lookup_erase_ne h

@[simp] theorem GoMap.lookup_empty (k : K) : (∅ : GoMap K V).lookup k = none := rfl

theorem GoMap.lookup_insert (m : GoMap K V) (k k' : K) (v : V) :
    (m.insert k v).lookup k' = if k' = k then some v else m.lookup k' := by
  split_ifs with h
  · subst h; exact AList.lookup_insert m
  · exact AList.lookup_insert_ne h

/-- Inserting a key not in the map keeps every present entry. -/
theorem GoMap.lookup_insert_of_not_mem {m : GoMap K V} {k k' : K} (v : V) {v' : V} (hk : k ∉ m)
    (h : m.lookup k' = some v') : (m.insert k v).lookup k' = some v' := by
  have hk' : k' ∈ m := AList.lookup_isSome.mp (by rw [h]; rfl)
  rw [GoMap.lookup_insert_of_ne _ _ fun (e : k' = k) => hk (e ▸ hk'), h]

/-- A map with no key is empty. -/
theorem GoMap.eq_empty_of_lookup {m : GoMap K V} (h : ∀ k, m.lookup k = none) : m = ∅ :=
  AList.ext (List.eq_nil_iff_forall_not_mem.mpr fun s hs =>
    AList.lookup_eq_none.mp (h s.1) (List.mem_keys_of_mem hs))

theorem GoMap.entries_ne_nil_of_lookup {m : GoMap K V} {k : K} {v : V} (h : m.lookup k = some v) :
    m.entries ≠ [] := fun he => by
  rw [AList.lookup, he] at h; cases h

theorem GoMap.lookup_singleton (k k' : K) (v : V) :
    (AList.singleton k v : GoMap K V).lookup k' = if k' = k then some v else none := by
  rw [← AList.insert_empty, GoMap.lookup_insert]; rfl

theorem GoMap.lookup_erase (m : GoMap K V) (k k' : K) :
    (m.erase k).lookup k' = if k' = k then none else m.lookup k' := by
  split_ifs with h
  · subst h; exact AList.lookup_erase k' m
  · exact AList.lookup_erase_ne h

/-- **A loop over a map's entries that writes only the key it visits.**  When step `f` at key
`k` changes no other key and reads the accumulator only at `k`, the loop's result at `k` is
the step at `k` applied to the initial map, and the initial value where the loop has no `k`. -/
theorem GoMap.foldl_lookup {A : Type} (f : GoMap K A → K → V → GoMap K A)
    (hne : ∀ acc k v k', k' ≠ k → (f acc k v).lookup k' = acc.lookup k')
    (hself : ∀ acc acc' k v, acc.lookup k = acc'.lookup k →
      (f acc k v).lookup k = (f acc' k v).lookup k) :
    ∀ (l : List (Σ _ : K, V)), l.NodupKeys → ∀ (acc : GoMap K A) (k : K),
      (l.foldl (fun a s => f a s.1 s.2) acc).lookup k =
        match l.dlookup k with
        | none => acc.lookup k
        | some v => (f acc k v).lookup k
  | [], _, _, _ => rfl
  | ⟨k', v'⟩ :: l, hl, acc, k => by
    rw [List.nodupKeys_cons] at hl
    rw [List.foldl_cons, GoMap.foldl_lookup f hne hself l hl.2]
    by_cases hk : k = k'
    · subst hk
      rw [List.dlookup_cons_eq, List.dlookup_eq_none.mpr hl.1]
    · rw [List.dlookup_cons_ne _ _ hk]
      cases l.dlookup k with
      | none => exact hne acc k' v' k hk
      | some v => exact hself _ _ k v (hne acc k' v' k hk)

/-- `GoMap.foldl_lookup` for a loop over a whole map (Go's `for k, v := range m`). -/
theorem GoMap.lookup_foldl {A : Type} (f : GoMap K A → K → V → GoMap K A)
    (hne : ∀ acc k v k', k' ≠ k → (f acc k v).lookup k' = acc.lookup k')
    (hself : ∀ acc acc' k v, acc.lookup k = acc'.lookup k →
      (f acc k v).lookup k = (f acc' k v).lookup k)
    (m : GoMap K V) (acc : GoMap K A) (k : K) :
    (m.foldl f acc).lookup k =
      match m.lookup k with
      | none => acc.lookup k
      | some v => (f acc k v).lookup k :=
  GoMap.foldl_lookup f hne hself m.entries m.nodupKeys acc k

omit [DecidableEq K] in
/-- A loop over a map that inserts, for each entry, one entry under a key computed from the
visited key: its result has the keys of the initial map and the computed ones. -/
theorem GoMap.mem_foldl_insert {K' W : Type} [DecidableEq K'] (g : K → K') (h : K → V → W)
    (m : GoMap K V) (acc : GoMap K' W) (k : K') :
    k ∈ m.foldl (fun acc a b => acc.insert (g a) (h a b)) acc ↔
      k ∈ acc ∨ ∃ a ∈ m, k = g a := by
  have hl : ∀ (l : List (Σ _ : K, V)) (acc : GoMap K' W),
      k ∈ l.foldl (fun acc s => acc.insert (g s.1) (h s.1 s.2)) acc ↔
        k ∈ acc ∨ ∃ s ∈ l, k = g s.1 := by
    intro l
    induction l with
    | nil => simp
    | cons s l ih =>
      intro acc
      rw [List.foldl_cons, ih, AList.mem_insert]
      simp only [List.mem_cons, exists_eq_or_imp]
      tauto
  rw [AList.foldl, hl]
  simp [AList.mem_keys, AList.keys, List.mem_keys]

omit [DecidableEq K] in
/-- A value such a loop leaves in its result was in the initial map or was computed from an
entry of the visited map whose key maps to its key. -/
theorem GoMap.lookup_foldl_insert {K' W : Type} [DecidableEq K'] (g : K → K') (h : K → V → W)
    (m : GoMap K V) (acc : GoMap K' W) {k : K'} {w : W}
    (hk : (m.foldl (fun acc a b => acc.insert (g a) (h a b)) acc).lookup k = some w) :
    acc.lookup k = some w ∨ ∃ s ∈ m.entries, k = g s.1 ∧ w = h s.1 s.2 := by
  have hl : ∀ (l : List (Σ _ : K, V)) (acc : GoMap K' W),
      (l.foldl (fun acc s => acc.insert (g s.1) (h s.1 s.2)) acc).lookup k = some w →
        acc.lookup k = some w ∨ ∃ s ∈ l, k = g s.1 ∧ w = h s.1 s.2 := by
    intro l
    induction l with
    | nil => exact fun _ h => .inl h
    | cons s l ih =>
      intro acc hacc
      rcases ih _ hacc with h' | ⟨s', hs', hk', rfl⟩
      · rw [GoMap.lookup_insert] at h'
        split_ifs at h' with hks
        · exact .inr ⟨s, List.mem_cons_self _ _, hks, (Option.some.inj h').symm⟩
        · exact .inl h'
      · exact .inr ⟨s', List.mem_cons_of_mem _ hs', hk', rfl⟩
  exact hl m.entries acc hk

/-- A loop that inserts, for each entry, one entry under an injective image of its key: at the
image of a key, the result holds the value computed from the map's entry, if any. -/
theorem GoMap.lookup_foldl_insert_of_injective {K' W : Type} [DecidableEq K'] {g : K → K'}
    (hg : Function.Injective g) (h : K → V → W) (m : GoMap K V) (acc : GoMap K' W) (a : K) :
    (m.foldl (fun acc a b => acc.insert (g a) (h a b)) acc).lookup (g a) =
      ((m.lookup a).map (h a)).or (acc.lookup (g a)) := by
  have hl : ∀ (l : List (Σ _ : K, V)), l.NodupKeys → ∀ acc : GoMap K' W,
      (l.foldl (fun acc s => acc.insert (g s.1) (h s.1 s.2)) acc).lookup (g a) =
        ((l.dlookup a).map (h a)).or (acc.lookup (g a)) := by
    intro l
    induction l with
    | nil => intro _ acc; rfl
    | cons s l ih =>
      intro hl acc
      rw [List.nodupKeys_cons] at hl
      rw [List.foldl_cons, ih hl.2]
      by_cases ha : a = s.1
      · subst ha
        rw [List.dlookup_eq_none.mpr hl.1, List.dlookup_cons_eq, GoMap.lookup_insert_self]
        rfl
      · rw [List.dlookup_cons_ne _ _ ha, GoMap.lookup_insert_of_ne _ _ (hg.ne ha)]
  exact hl m.entries m.nodupKeys acc

/-- **A loop of inserts keeps the last value for each key**, or the initial one when no
inserted pair has that key. -/
theorem GoMap.lookup_foldl_insert_getLast {W : Type} :
    ∀ (es : List (K × W)) (acc : GoMap K W) (k : K),
      (es.foldl (fun acc e => acc.insert e.1 e.2) acc).lookup k =
        (((es.filter fun e => e.1 = k).getLast?).map Prod.snd).or (acc.lookup k)
  | [], _, _ => rfl
  | e :: es, acc, k => by
    rw [List.foldl_cons, GoMap.lookup_foldl_insert_getLast es, List.filter_cons]
    by_cases he : e.1 = k
    · subst he
      rw [if_pos (decide_eq_true rfl), List.getLast?_cons, GoMap.lookup_insert_self]
      cases (es.filter fun e' => e'.1 = e.1).getLast? <;> rfl
    · rw [if_neg (by simpa using he), GoMap.lookup_insert_of_ne _ _ (Ne.symm he)]

end GoMap

/-- Equality of Go call results, so that a result can be evaluated by `decide`. -/
instance Except.decEq {ε α : Type} [DecidableEq ε] [DecidableEq α] : DecidableEq (Except ε α)
  | .error a, .error b =>
    if h : a = b then isTrue (h ▸ rfl) else isFalse fun e => h (by injection e)
  | .ok a, .ok b => if h : a = b then isTrue (h ▸ rfl) else isFalse fun e => h (by injection e)
  | .error _, .ok _ | .ok _, .error _ => isFalse nofun

section Except

variable {ε α β : Type}

/-- A Go call that returned `nil` error continues with its result. -/
@[simp] theorem Except.ok_bind (a : α) (f : α → Except ε β) : Except.ok a >>= f = f a := rfl

/-- A Go call that returned an error makes its caller return it. -/
@[simp] theorem Except.error_bind (e : ε) (f : α → Except ε β) :
    (Except.error e : Except ε α) >>= f = Except.error e := rfl

/-- A chain of Go calls succeeds exactly when the first call does and the rest succeeds on its
result. -/
theorem Except.bind_eq_ok {x : Except ε α} {f : α → Except ε β} {b : β} :
    x >>= f = .ok b ↔ ∃ a, x = .ok a ∧ f a = .ok b := by
  cases x <;> simp

/-- A Go loop returns the first error of its body: when the body fails on some element whatever
it has accumulated, the whole loop fails. -/
theorem Except.foldlM_error_of_mem {f : β → α → Except ε β} {l : List α} {x : α} (hx : x ∈ l)
    (hf : ∀ b, ∃ e, f b x = .error e) (b : β) : ∃ e, l.foldlM f b = .error e := by
  induction l generalizing b with
  | nil => cases hx
  | cons y l ih =>
    rw [List.foldlM_cons]
    rcases List.mem_cons.mp hx with rfl | hx
    · obtain ⟨e, he⟩ := hf b
      exact ⟨e, by rw [he]; rfl⟩
    · cases hy : f b y with
      | error e => exact ⟨e, rfl⟩
      | ok b' => exact ih hx b'

/-- A Go loop whose body, when it succeeds, returns `g` of the accumulator and the element
returns the plain fold of `g` when it succeeds. -/
theorem Except.foldlM_eq_ok {f : β → α → Except ε β} {g : β → α → β}
    (hf : ∀ b a b', f b a = .ok b' → b' = g b a) :
    ∀ (l : List α) (b r : β), l.foldlM f b = .ok r → r = l.foldl g b
  | [], _, _, h => by cases h; rfl
  | a :: l, b, r, h => by
    rw [List.foldlM_cons] at h
    obtain ⟨b', h₁, h⟩ := Except.bind_eq_ok.mp h
    rw [List.foldl_cons, ← hf b a b' h₁]
    exact Except.foldlM_eq_ok hf l b' r h

/-- A property of the accumulator that every successful step on an element of the list keeps
holds of what a successful Go loop over the list returns. -/
theorem Except.foldlM_invariant {f : β → α → Except ε β} {P : β → Prop} {l : List α}
    (hf : ∀ b a b', a ∈ l → P b → f b a = .ok b' → P b') {b r : β} (hb : P b)
    (h : l.foldlM f b = .ok r) : P r := by
  induction l generalizing b with
  | nil => cases h; exact hb
  | cons a l ih =>
    rw [List.foldlM_cons] at h
    obtain ⟨b', h₁, h₂⟩ := Except.bind_eq_ok.mp h
    exact ih (fun b a b' ha => hf b a b' (List.mem_cons_of_mem _ ha))
      (hf b a b' (List.mem_cons_self _ _) hb h₁) h₂

/-- What a successful step on an element establishes, and every later successful step keeps,
holds of what a successful Go loop returns, for every element. -/
theorem Except.foldlM_forall_mem {f : β → α → Except ε β} {R : α → β → Prop}
    (hstep : ∀ b a b', f b a = .ok b' → R a b')
    (hkeep : ∀ a b a' b', R a b → f b a' = .ok b' → R a b') :
    ∀ (l : List α) (b r : β), l.foldlM f b = .ok r → ∀ a ∈ l, R a r
  | [], _, _, _, _, ha => nomatch ha
  | a :: l, b, r, h, x, hx => by
    rw [List.foldlM_cons] at h
    obtain ⟨b', h₁, h₂⟩ := Except.bind_eq_ok.mp h
    rcases List.mem_cons.mp hx with rfl | hx
    · exact Except.foldlM_invariant (fun _ a' _ _ hR h' => hkeep x _ a' _ hR h')
        (hstep b x b' h₁) h₂
    · exact Except.foldlM_forall_mem hstep hkeep l b' r h₂ x hx

@[simp] theorem Except.pure_eq_ok (a : α) : (pure a : Except ε α) = Except.ok a := rfl

@[simp] theorem Except.fmap_ok (f : α → β) (a : α) :
    f <$> (Except.ok a : Except ε α) = Except.ok (f a) := rfl

end Except

/-- A Go loop whose body either panics or returns `g` of the accumulator and the element panics
exactly when the body panics at some element, on the plain fold of `g` over those before it. -/
theorem Option.foldlM_eq_none_iff {α β : Type} {f : β → α → Option β} {g : β → α → β}
    (hf : ∀ b a, f b a = none ∨ f b a = some (g b a)) :
    ∀ (l : List α) (b : β),
      l.foldlM f b = none ↔ ∃ l₁ a l₂, l = l₁ ++ a :: l₂ ∧ f (l₁.foldl g b) a = none
  | [], b => by simp
  | a :: l, b => by
    rw [List.foldlM_cons, Option.bind_eq_bind]
    rcases hf b a with h | h
    · simp only [h, Option.none_bind, true_iff]
      exact ⟨[], a, l, rfl, h⟩
    · rw [h, Option.some_bind, Option.foldlM_eq_none_iff hf l (g b a)]
      constructor
      · rintro ⟨l₁, a', l₂, rfl, h'⟩
        exact ⟨a :: l₁, a', l₂, rfl, h'⟩
      · rintro ⟨_ | ⟨_, l₁⟩, a', l₂, he, h'⟩
        · cases he
          rw [List.foldl_nil, h] at h'
          cases h'
        · cases he
          exact ⟨l₁, a', l₂, rfl, h'⟩

/-! ### OVSDB atoms and column values -/

/-- An OVSDB atom as libovsdb decodes a set element or a map key or value. -/
inductive Atom where
  | number (n : Float64)
  | boolean (b : Bool)
  | string (s : String)
  | uuid (s : String)
  deriving DecidableEq, Repr

/-- `libovsdb.OvsSet`: its `GoSet` slice. -/
abbrev OvsSet := List Atom

/-- `libovsdb.OvsMap`: its `GoMap`. -/
abbrev OvsMap := GoMap Atom Atom

/-- A column value held in a row map's `interface{}`. -/
inductive Value where
  /-- a value decoded by `encoding/json` -/
  | json (v : Json)
  /-- a `*libovsdb.OvsSet` delta -/
  | set (s : OvsSet)
  /-- a `*libovsdb.OvsMap` delta -/
  | map (m : OvsMap)
  deriving DecidableEq

/-- The zero `interface{}`: what indexing a Go map at a missing key yields. -/
def Value.nil : Value := .json .null

/-- `map[string]interface{}`: a stored row, a projection of one, or a delta. -/
abbrev Row := GoMap String Value

/-- A Go map read at `k`, with the zero value for a missing key (`m[k]` in Go). -/
def Row.get (r : Row) (k : String) : Value := (r.lookup k).getD Value.nil

theorem Row.get_of_lookup {r : Row} {k : String} {v : Value} (h : r.lookup k = some v) :
    r.get k = v := by
  rw [Row.get, h]; rfl

/-- A stored payload as `json.Unmarshal` reads it: the document it parses to, or `none`
when the bytes are not JSON. -/
abbrev Payload := Option Json

/-! ### `json.Unmarshal` into `map[string]interface{}` -/

/-- The map `json.Unmarshal` builds from an object's fields: a later repeat of a key
overwrites the earlier one. -/
def Json.toRow (fields : List (String × Json)) : Row :=
  fields.foldl (fun row kv => row.insert kv.1 (.json kv.2)) ∅

/-- The `UnmarshalTypeError` of `json.Unmarshal` into `map[string]interface{}` given a JSON
value of kind `kind`. -/
def cannotUnmarshal (kind : String) : String :=
  "json: cannot unmarshal " ++ kind ++ " into Go value of type map[string]interface \x7b\x7d"

/-- `unmarshalData`: `json.Unmarshal` of a stored payload into `map[string]interface{}`.
`null` leaves the map `nil`, which reads as empty. -/
def unmarshalData : Payload → Except String Row
  | some (.object fields) => .ok (Json.toRow fields)
  | some .null => .ok ∅
  | some (.bool _) => .error (cannotUnmarshal "bool")
  | some (.number _) => .error (cannotUnmarshal "number")
  | some (.string _) => .error (cannotUnmarshal "string")
  | some (.array _) => .error (cannotUnmarshal "array")
  | none => .error "invalid character looking for beginning of value"

/-! ### Go's `%v` on decoded JSON -/

mutual
/-- Go's `fmt.Sprintf("%v", v)` of a decoded JSON value: `<nil>`, `true`, numbers as
`Float64.fmtNumber`, strings bare, slices as `[a b]`, maps as `map[k:v ...]` sorted by key. -/
def fmtV : Json → String
  | .null => "<nil>"
  | .bool b => if b then "true" else "false"
  | .number n => n.fmtNumber
  | .string s => s
  | .array xs => "[" ++ " ".intercalate (fmtVList xs) ++ "]"
  | .object fields =>
    let entries := (fmtVFields fields).foldl (fun m kv => m.insert kv.1 kv.2)
      (∅ : GoMap String String)
    let sorted := entries.entries.mergeSort fun a b => decide (a.1 ≤ b.1)
    "map[" ++ " ".intercalate (sorted.map fun kv => kv.1 ++ ":" ++ kv.2) ++ "]"
/-- `fmtV` of each element. -/
def fmtVList : List Json → List String
  | [] => []
  | x :: xs => fmtV x :: fmtVList xs
/-- `fmtV` of each field's value. -/
def fmtVFields : List (String × Json) → List (String × String)
  | [] => []
  | (k, x) :: xs => (k, fmtV x) :: fmtVFields xs
end

end OvsdbMonitor
