import Logline.Proofs.Names
import Logline.Toml.Reader

/-!
# No table has a key twice

A document is refused when it says something twice: when a key is assigned that is there, or when a
table gets a second header.  So in all that is ever read no table has two entries under one key, at
the top of the document or inside any of its values, and it makes sense to speak of *the* value
under a key.

Reading is a tower of scans, of which most take characters off and give nothing that matters here.
What carries over from scan to scan is one property of what they give, so the proofs follow the
scans bind by bind, and only the three operations that add to a tree need a look at the tree itself.

## What is here

* `Scan.Gives` — what is true of everything that a scan gives, for each way to put scans together.
* `Value.Keyed` — no table in a value has a key twice; `Entries.Keyed` says it of a tree.
* `Entries.Keyed.put` and `Entries.Keyed.descend` — **changes of a tree keep it so**, and with them
  the three kinds of lines, `Document.Keyed.addTable`, `Document.Keyed.addItem` and
  `Document.Keyed.addValue`.
* `keyed_of_read?` — **no table of a document has a key twice**.
-/

set_option autoImplicit false
namespace Logline
namespace Toml

/-! ## What a scan gives -/

section Scans

variable {α β σ : Type}

/-- Everything that a scan gives has a property. -/
def Scan.Gives (s : Scan α) (P : α → Prop) : Prop :=
  ∀ cs a rest, s cs = some (a, rest) → P a

namespace Scan.Gives

variable {s t : Scan α} {P Q : α → Prop} {R : β → Prop}

theorem pure {a : α} (h : P a) : Scan.Gives (Pure.pure a) P := by
  intro cs a' rest hs
  cases hs
  exact h

theorem bind {f : α → Scan β} (hs : Scan.Gives s P) (hf : ∀ a, P a → Scan.Gives (f a) R) :
    Scan.Gives (s >>= f) R := by
  intro cs b rest h
  obtain ⟨⟨a, cs'⟩, ha, hb⟩ := Option.bind_eq_some_iff.mp h
  exact hf a (hs cs a cs' ha) cs' b rest hb

/-- A scan whose result is passed over, or looked at only to choose the next one. -/
theorem seq {f : α → Scan β} (hf : ∀ a, Scan.Gives (f a) R) : Scan.Gives (s >>= f) R :=
  bind (P := fun _ ↦ True) (fun _ _ _ _ ↦ trivial) fun a _ ↦ hf a

theorem lift {x : Option α} (h : ∀ a, x = some a → P a) : Scan.Gives (StateT.lift x) P := by
  intro cs a rest hx
  obtain ⟨a', ha', hrest⟩ := Option.bind_eq_some_iff.mp hx
  cases hrest
  exact h a ha'

theorem map {f : α → β} (hs : Scan.Gives s P) (hf : ∀ a, P a → R (f a)) :
    Scan.Gives (f <$> s) R :=
  bind hs fun a ha ↦ pure (hf a ha)

theorem orElse (hs : Scan.Gives s P) (ht : Scan.Gives t P) : Scan.Gives (s <|> t) P := by
  intro cs a rest h
  obtain h | ⟨-, h⟩ := Option.or_eq_some_iff.mp (Option.orElse_eq_or.symm.trans h)
  · exact hs cs a rest h
  · exact ht cs a rest h

/-- What every step keeps and what every result has: the invariant of a loop. -/
theorem loop {step : σ → Scan (σ ⊕ β)} {I : σ → Prop}
    (hstep : ∀ s, I s → Scan.Gives (step s) (Sum.elim I R)) {s : σ} (hs : I s) :
    Scan.Gives (Scan.loop step s) R := by
  have hfor : ∀ times s, I s → Scan.Gives (Scan.loopFor step times s) R := by
    intro times
    induction times with
    | zero =>
      intro s _ cs b rest h
      cases h
    | succ times ih =>
      intro s hs
      refine bind (hstep s hs) fun r hr ↦ ?_
      cases r with
      | inl s' => exact ih s' hr
      | inr b => exact pure hr
  exact fun cs ↦ hfor _ s hs cs

end Scan.Gives

end Scans

/-! ## Values and trees -/

/-- No table has a key twice, be it the value itself or anywhere inside. -/
inductive Value.Keyed : Value → Prop
  | scalar {v : Value} (hitems : ∀ items, v ≠ .array items)
      (hentries : ∀ entries, v ≠ .table entries) : Keyed v
  | array {items : List Value} (h : ∀ v ∈ items, Keyed v) : Keyed (.array items)
  | table {entries : List (String × Value)} (hkeys : (entries.map Prod.fst).Nodup)
      (h : ∀ e ∈ entries, Keyed e.2) : Keyed (.table entries)

theorem Value.keyed_table_iff {entries : List (String × Value)} :
    (Value.table entries).Keyed ↔
      (entries.map Prod.fst).Nodup ∧ ∀ e ∈ entries, e.2.Keyed := by
  constructor
  · intro h
    cases h with
    | scalar _ hentries => exact absurd rfl (hentries entries)
    | table hkeys h => exact ⟨hkeys, h⟩
  · rintro ⟨hkeys, h⟩
    exact .table hkeys h

theorem Value.keyed_array_iff {items : List Value} :
    (Value.array items).Keyed ↔ ∀ v ∈ items, v.Keyed := by
  constructor
  · intro h
    cases h with
    | scalar hitems _ => exact absurd rfl (hitems items)
    | array h => exact h
  · exact .array

namespace Node

theorem toEntries_eq (entries : Entries) :
    toEntries entries = entries.map fun e ↦ (e.1, e.2.toValue) := by
  induction entries with
  | nil => rfl
  | cons e entries ih => rw [toEntries, ih, List.map_cons]

theorem toItems_eq (items : List Entries) :
    toItems items = items.map fun entries ↦ Value.table (toEntries entries) := by
  induction items with
  | nil => rfl
  | cons entries items ih => rw [toItems, ih, List.map_cons]

end Node

namespace Entries

/-- No table of a tree has a key twice. -/
def Keyed (entries : Entries) : Prop := (Value.table (Node.toEntries entries)).Keyed

theorem keyed_iff {entries : Entries} :
    entries.Keyed ↔ (entries.map Prod.fst).Nodup ∧ ∀ e ∈ entries, e.2.toValue.Keyed := by
  rw [Keyed, Value.keyed_table_iff, Node.toEntries_eq, List.map_map, List.forall_mem_map]
  rfl

theorem keyed_nil : Keyed [] := keyed_iff.mpr ⟨List.nodup_nil, by simp⟩

/-! ## Changes of a tree -/

theorem keys_put (key : String) (node : Node) (entries : Entries) :
    (put key node entries).map Prod.fst =
      if key ∈ entries.map Prod.fst then entries.map Prod.fst
      else entries.map Prod.fst ++ [key] := by
  induction entries with
  | nil => rfl
  | cons e entries ih =>
    obtain ⟨k, n⟩ := e
    by_cases hk : k = key
    · simp [put, hk]
    · by_cases hmem : key ∈ entries.map Prod.fst
      · rw [put, if_neg hk, List.map_cons, ih, if_pos hmem, List.map_cons,
          if_pos (List.mem_cons_of_mem k hmem)]
      · have hnot : key ∉ k :: entries.map Prod.fst :=
          List.not_mem_cons_of_ne_of_not_mem (Ne.symm hk) hmem
        rw [put, if_neg hk, List.map_cons, ih, if_neg hmem, List.map_cons, if_neg hnot,
          List.cons_append]

theorem eq_or_mem_of_mem_put {key : String} {node : Node} {entries : Entries} {e : String × Node}
    (h : e ∈ put key node entries) : e = (key, node) ∨ e ∈ entries := by
  induction entries with
  | nil => exact .inl (List.mem_singleton.mp h)
  | cons e' entries ih =>
    obtain ⟨k, n⟩ := e'
    rw [put] at h
    split at h
    · next hk =>
      obtain rfl | hmem := List.mem_cons.mp h
      · exact .inl (by rw [hk])
      · exact .inr (List.mem_cons_of_mem _ hmem)
    · obtain rfl | hmem := List.mem_cons.mp h
      · exact .inr List.mem_cons_self
      · exact (ih hmem).imp_right (List.mem_cons_of_mem _)

namespace Keyed

variable {entries entries' : Entries}

/-- **A node under a key**, new or in place of another. -/
theorem put (h : entries.Keyed) (key : String) {node : Node} (hnode : node.toValue.Keyed) :
    (entries.put key node).Keyed := by
  obtain ⟨hkeys, hnodes⟩ := keyed_iff.mp h
  refine keyed_iff.mpr ⟨?_, fun e he ↦ ?_⟩
  · rw [keys_put]
    split
    · exact hkeys
    · next hnot =>
      refine List.nodup_append.mpr ⟨hkeys, List.nodup_singleton key, fun k hk k' hk' heq ↦ ?_⟩
      rw [List.mem_singleton.mp hk'] at heq
      exact hnot (heq ▸ hk)
  · obtain rfl | hmem := eq_or_mem_of_mem_put he
    · exact hnode
    · exact hnodes e hmem

theorem of_lookup (h : entries.Keyed) {key : String} {node : Node}
    (hnode : entries.lookup key = some node) : node.toValue.Keyed := by
  obtain ⟨hkeys, hnodes⟩ := keyed_iff.mp h
  exact hnodes _ ((lookup_eq_some_iff_mem_of_nodup hkeys).mp hnode)

/-- The tables under one header in double brackets. -/
theorem tables_iff {items : List Entries} :
    (Node.tables items).toValue.Keyed ↔ ∀ sub ∈ items, Keyed sub := by
  rw [Node.toValue, Value.keyed_array_iff, Node.toItems_eq, List.forall_mem_map]
  rfl

/-- **A change at the end of a path** that keeps the table there as it has to be. -/
theorem descend {made : Origin} {change : Origin → Entries → Option Entries}
    (hchange : ∀ o sub sub', Keyed sub → change o sub = some sub' → Keyed sub') {path : List String}
    {origin : Origin} (h : entries.Keyed)
    (hresult : Node.descend made change origin entries path = some entries') :
    entries'.Keyed := by
  induction path generalizing origin entries entries' with
  | nil => exact hchange origin entries entries' h hresult
  | cons k ks ih =>
    rw [Node.descend] at hresult
    split at hresult
    · obtain ⟨sub, hsub, hput⟩ := Option.bind_eq_some_iff.mp hresult
      cases hput
      exact h.put k (ih keyed_nil hsub)
    · cases hresult
    · next o sub hlookup =>
      split at hresult
      · cases hresult
      · obtain ⟨sub', hsub, hput⟩ := Option.bind_eq_some_iff.mp hresult
        cases hput
        exact h.put k (ih (h.of_lookup hlookup) hsub)
    · next items hlookup =>
      have hitems := tables_iff.mp (h.of_lookup hlookup)
      split at hresult
      · cases hresult
      · next sub hlast =>
        obtain ⟨sub', hsub, hput⟩ := Option.bind_eq_some_iff.mp hresult
        cases hput
        -- a path goes on in the last one of the tables, and the others stay
        refine h.put k (tables_iff.mpr fun t ht ↦ ?_)
        obtain ht | ht := List.mem_append.mp ht
        · exact hitems t (List.dropLast_subset items ht)
        · rw [List.mem_singleton.mp ht]
          exact ih (hitems sub (List.mem_of_getLast? hlast)) hsub

end Keyed

end Entries

/-! ## Lines -/

namespace Document

/-- No table of a document has a key twice. -/
def Keyed (d : Document) : Prop := d.entries.Keyed

namespace Keyed

variable {d d' : Document} {path : List String}

theorem addTable (h : d.Keyed) (hd : d.addTable path = some d') : d'.Keyed := by
  unfold Document.addTable at hd
  split at hd
  · cases hd
  · next key _ =>
    obtain ⟨entries, hentries, hd⟩ := Option.bind_eq_some_iff.mp hd
    cases hd
    refine Entries.Keyed.descend (fun _ sub sub' hsub hchange ↦ ?_) h hentries
    split at hchange
    · cases hchange
      exact hsub.put key Entries.keyed_nil
    · next hlookup =>
      cases hchange
      exact hsub.put key (hsub.of_lookup hlookup :)
    · cases hchange

theorem addItem (h : d.Keyed) (hd : d.addItem path = some d') : d'.Keyed := by
  unfold Document.addItem at hd
  split at hd
  · cases hd
  · next key _ =>
    obtain ⟨entries, hentries, hd⟩ := Option.bind_eq_some_iff.mp hd
    cases hd
    refine Entries.Keyed.descend (fun _ sub sub' hsub hchange ↦ ?_) h hentries
    split at hchange
    · cases hchange
      refine hsub.put key (Entries.Keyed.tables_iff.mpr fun t ht ↦ ?_)
      rw [List.mem_singleton.mp ht]
      exact Entries.keyed_nil
    · next items hlookup =>
      cases hchange
      refine hsub.put key (Entries.Keyed.tables_iff.mpr fun t ht ↦ ?_)
      obtain ht | ht := List.mem_append.mp ht
      · exact Entries.Keyed.tables_iff.mp (hsub.of_lookup hlookup) t ht
      · rw [List.mem_singleton.mp ht]
        exact Entries.keyed_nil
    · cases hchange

theorem addValue (h : d.Keyed) {v : Value} (hv : v.Keyed) (hd : d.addValue path v = some d') :
    d'.Keyed := by
  unfold Document.addValue at hd
  split at hd
  · cases hd
  · next key _ =>
    obtain ⟨entries, hentries, hd⟩ := Option.bind_eq_some_iff.mp hd
    cases hd
    -- down to the table of the header, and from there along the path in front of the equals sign
    refine Entries.Keyed.descend (fun o sub sub' hsub hchange ↦ ?_) h hentries
    refine Entries.Keyed.descend (fun o sub sub' hsub hput ↦ ?_) hsub hchange
    split at hput
    · cases hput
    · split at hput
      · cases hput
        exact hsub.put key hv
      · cases hput

end Keyed

end Document

/-! ## Reading -/

theorem keyed_scalar : Scan.Gives Scalar.value Value.Keyed := by
  have hgives : ∀ {α : Type} (f : α → Value) (s : Scan α),
      (∀ a items, f a ≠ .array items) → (∀ a entries, f a ≠ .table entries) →
      Scan.Gives (f <$> s) Value.Keyed := fun f s hitems hentries ↦
    Scan.Gives.seq fun a ↦ Scan.Gives.pure (.scalar (hitems a) (hentries a))
  exact (hgives _ _ nofun nofun).orElse <| (hgives _ _ nofun nofun).orElse <|
    (hgives _ _ nofun nofun).orElse <| (hgives _ _ nofun nofun).orElse (hgives _ _ nofun nofun)

theorem keyed_itemsOf {item : Scan Value} (h : Scan.Gives item Value.Keyed) :
    Scan.Gives (itemsOf item) fun items ↦ ∀ v ∈ items, v.Keyed := by
  have hpush : ∀ {v : Value} {read : List Value}, v.Keyed → (∀ w ∈ read, w.Keyed) →
      ∀ w ∈ v :: read, w.Keyed := fun hv hread ↦ List.forall_mem_cons.mpr ⟨hv, hread⟩
  refine Scan.Gives.seq fun _ ↦ Scan.Gives.seq fun closed ↦ ?_
  split
  · exact Scan.Gives.seq fun _ ↦ Scan.Gives.pure (by simp)
  · refine Scan.Gives.loop (I := fun read ↦ ∀ v ∈ read, v.Keyed) (fun read hread ↦ ?_) (by simp)
    refine Scan.Gives.bind h fun v hv ↦ Scan.Gives.seq fun _ ↦ Scan.Gives.seq fun next ↦ ?_
    have hreverse : ∀ w ∈ (v :: read).reverse, w.Keyed := fun w hw ↦
      hpush hv hread w (List.mem_reverse.mp hw)
    split
    · refine Scan.Gives.seq fun _ ↦ Scan.Gives.seq fun _ ↦ Scan.Gives.seq fun closed ↦ ?_
      split
      · exact Scan.Gives.seq fun _ ↦ Scan.Gives.pure hreverse
      · exact Scan.Gives.pure (hpush hv hread)
    · exact Scan.Gives.seq fun _ ↦ Scan.Gives.pure hreverse

theorem keyed_entriesOf {item : Scan Value} (h : Scan.Gives item Value.Keyed) :
    Scan.Gives (entriesOf item) Entries.Keyed := by
  refine Scan.Gives.seq fun _ ↦ Scan.Gives.seq fun closed ↦ ?_
  split
  · exact Scan.Gives.seq fun _ ↦ Scan.Gives.pure Entries.keyed_nil
  · refine Scan.Gives.loop (I := Entries.Keyed) (fun entries hentries ↦ ?_) Entries.keyed_nil
    refine Scan.Gives.seq fun path ↦ ?_
    have hassigned : Scan.Gives (assigned item) Value.Keyed :=
      Scan.Gives.seq fun _ ↦ Scan.Gives.seq fun _ ↦ h
    refine Scan.Gives.bind hassigned fun v hv ↦ Scan.Gives.seq fun _ ↦ ?_
    refine Scan.Gives.bind (P := Entries.Keyed) (Scan.Gives.lift fun entries' hadd ↦ ?_)
      fun entries' hentries' ↦ Scan.Gives.seq fun next ↦ ?_
    · obtain ⟨d, hd, rfl⟩ := Option.map_eq_some_iff.mp hadd
      exact Document.Keyed.addValue (d := ⟨entries, []⟩) hentries hv hd
    · split
      · exact Scan.Gives.seq fun _ ↦ Scan.Gives.pure hentries'
      · exact Scan.Gives.seq fun _ ↦ Scan.Gives.pure hentries'

/-- **No table of a value has a key twice**, however deep it stands. -/
theorem keyed_value (depth : Nat) : Scan.Gives (value depth) Value.Keyed := by
  induction depth with
  | zero => exact keyed_scalar
  | succ depth ih =>
    rw [value]
    refine Scan.Gives.seq fun next ↦ ?_
    split
    · exact Scan.Gives.seq fun _ ↦
        (keyed_itemsOf ih).bind fun items hitems ↦ Scan.Gives.pure (.array hitems)
    · exact Scan.Gives.seq fun _ ↦
        (keyed_entriesOf ih).bind fun entries hentries ↦ Scan.Gives.pure hentries
    · exact keyed_scalar

/-- **One line** keeps a document as it has to be. -/
theorem keyed_line {d : Document} (h : d.Keyed) :
    Scan.Gives (line d) (Sum.elim Document.Keyed Document.Keyed) := by
  have hheader : Scan.Gives (header d) Document.Keyed := by
    refine Scan.Gives.seq fun double ↦ ?_
    split
    · exact Scan.Gives.seq fun _ ↦ Scan.Gives.seq fun path ↦ Scan.Gives.seq fun _ ↦
        Scan.Gives.seq fun _ ↦ Scan.Gives.lift fun d' hd ↦ h.addItem hd
    · exact Scan.Gives.seq fun _ ↦ Scan.Gives.seq fun path ↦ Scan.Gives.seq fun _ ↦
        Scan.Gives.seq fun _ ↦ Scan.Gives.lift fun d' hd ↦ h.addTable hd
  have hentry : Scan.Gives (entry d) Document.Keyed := by
    refine Scan.Gives.seq fun path ↦ ?_
    have hassigned : Scan.Gives (assigned (value maxDepth)) Value.Keyed :=
      Scan.Gives.seq fun _ ↦ Scan.Gives.seq fun _ ↦ keyed_value maxDepth
    exact hassigned.bind fun v hv ↦ Scan.Gives.seq fun _ ↦
      Scan.Gives.lift fun d' hd ↦ h.addValue hv hd
  refine Scan.Gives.seq fun _ ↦ Scan.Gives.seq fun next ↦ ?_
  split
  · exact Scan.Gives.pure h
  · exact Scan.Gives.seq fun _ ↦ Scan.Gives.pure h
  · exact Scan.Gives.seq fun _ ↦ Scan.Gives.pure h
  · exact Scan.Gives.seq fun _ ↦ Scan.Gives.pure h
  · exact hheader.map fun _ hd ↦ hd
  · exact hentry.map fun _ hd ↦ hd

/-- **No table of a document has a key twice.** -/
theorem keyed_of_read? {text : String} {entries : List (String × Value)}
    (h : read? text = some entries) : (Value.table entries).Keyed := by
  obtain ⟨⟨d, rest⟩, hd, rfl⟩ := Option.map_eq_some_iff.mp h
  have hempty : Document.empty.Keyed := Entries.keyed_nil
  exact Scan.Gives.loop (fun _ hdoc ↦ keyed_line hdoc) hempty _ d rest hd

/-- A key that is there already, by way of a path. -/
example : read? "a.b = 1\n[a]\nb = 2" = none := by decide +kernel

end Toml
end Logline
