import LintBridge.Settings.Json
import Mathlib.Data.List.Forall2

/-!
# Settings laid over a fallback

An `Override` is one field of the settings with a value, and `Override.WrittenAs` the JSON values
that give it. When every field of the editor's object that counts gives an override, the result
is the fallback with those fields replaced; when one gives none, the result is the fallback.
-/

namespace LintBridge.Json

/-! ## Setting a field of an object -/

variable {k : String} {v : Json}

theorem any_key_of_mem {fields : List (String × Json)} (h : k ∈ fields.map (·.1)) :
    fields.any (·.1 == k) = true := by
  obtain ⟨kv, hkv, rfl⟩ := List.mem_map.mp h
  exact List.any_eq_true.mpr ⟨kv, hkv, by simp⟩

theorem setField_append_of_not_mem (front rest : List (String × Json))
    (h : ∀ kv ∈ front, kv.1 ≠ k) : setField (front ++ rest) k v = front ++ setField rest k v := by
  have hfront : front.any (·.1 == k) = false :=
    List.any_eq_false.mpr fun kv hkv => by simpa using h kv hkv
  unfold setField
  rw [List.any_append, hfront, Bool.false_or]
  split
  · rw [List.map_append]
    congr 1
    exact (List.map_congr_left fun kv hkv => by simp [h kv hkv]).trans (List.map_id front)
  · rw [List.append_assoc]

theorem setField_append_of_mem (front rest : List (String × Json)) (hf : k ∈ front.map (·.1))
    (hr : ∀ kv ∈ rest, kv.1 ≠ k) : setField (front ++ rest) k v = setField front k v ++ rest := by
  unfold setField
  rw [List.any_append, any_key_of_mem hf, Bool.true_or, if_pos rfl, if_pos rfl, List.map_append]
  congr 1
  exact (List.map_congr_left fun kv hkv => by simp [hr kv hkv]).trans (List.map_id rest)

theorem setField_cons_self {rest : List (String × Json)} (h : ∀ kv ∈ rest, kv.1 ≠ k)
    (w : Json) : setField ((k, w) :: rest) k v = (k, v) :: rest := by
  rw [← List.singleton_append, setField_append_of_mem [(k, w)] rest (by simp) h]
  simp [setField]

theorem setField_cons_of_ne {rest : List (String × Json)} {k' : String} (hk : k' ≠ k)
    (w : Json) : setField ((k', w) :: rest) k v = (k', w) :: setField rest k v := by
  rw [← List.singleton_append, setField_append_of_not_mem [(k', w)] rest (by simpa using hk)]
  rfl

theorem keys_setField_of_mem {fields : List (String × Json)} (h : k ∈ fields.map (·.1)) :
    (setField fields k v).map (·.1) = fields.map (·.1) := by
  unfold setField
  rw [if_pos (any_key_of_mem h), List.map_map]
  refine List.map_congr_left fun kv _ => ?_
  by_cases hk : kv.1 = k <;> simp [hk]

theorem mem_setField {fields : List (String × Json)} {kv : String × Json}
    (h : kv ∈ setField fields k v) : kv ∈ fields ∨ kv = (k, v) := by
  unfold setField at h
  split at h
  · obtain ⟨kv', hkv', rfl⟩ := List.mem_map.mp h
    by_cases hk : kv'.1 = k <;> simp [hk, hkv']
  · simpa using h

theorem mem_setField_of_ne {fields : List (String × Json)} {kv : String × Json}
    (h : kv ∈ fields) (hk : kv.1 ≠ k) : kv ∈ setField fields k v := by
  unfold setField
  split
  · exact List.mem_map.mpr ⟨kv, h, by simp [hk]⟩
  · exact List.mem_append_left _ h

theorem mem_setField_self {fields : List (String × Json)} (h : k ∈ fields.map (·.1)) :
    (k, v) ∈ setField fields k v := by
  unfold setField
  rw [if_pos (any_key_of_mem h)]
  obtain ⟨kv, hkv, rfl⟩ := List.mem_map.mp h
  exact List.mem_map.mpr ⟨kv, hkv, by simp⟩

end LintBridge.Json

namespace LintBridge.Settings

/-! ## Overrides -/

/-- The keys of the settings in the editor's object. -/
def keys : List String :=
  ["command", "showErrors", "maxErrors", "outputFormat", "severity", "docsUrl"]

/-- One field of the settings with a value for it. -/
inductive Override where
  | command (c : String)
  | showErrors (m : DisplayMode)
  | maxErrors (n : Nat)
  | outputFormat (l : Layout)
  | severity (e : Severity)
  | docsUrl (d : String)

namespace Override

/-- The key of the field. -/
def key : Override → String
  | .command _ => "command"
  | .showErrors _ => "showErrors"
  | .maxErrors _ => "maxErrors"
  | .outputFormat _ => "outputFormat"
  | .severity _ => "severity"
  | .docsUrl _ => "docsUrl"

/-- The settings with the field replaced. -/
def apply (s : Settings) : Override → Settings
  | .command c => { s with command := c }
  | .showErrors m => { s with showErrors := m }
  | .maxErrors n => { s with maxErrors := some n }
  | .outputFormat l => { s with outputFormat := l }
  | .severity e => { s with severity := e }
  | .docsUrl d => { s with docsUrl := d }

/-- A choice written by its name: the name as a string, or an object whose only key is the
name and whose value is `null`. -/
def NamedBy (name : String) (j : Json) : Prop := j = .str name ∨ j = .obj [(name, .null)]

/-- The JSON values that give an override. -/
def WrittenAs : Override → Json → Prop
  | .command c, j => j = .str c
  | .showErrors m, j => NamedBy m.name j
  | .maxErrors n, j => n ≤ sizeMax ∧ j = .num (.int n)
  | .outputFormat l, j => NamedBy l.name j
  | .severity e, j => NamedBy e.name j
  | .docsUrl d, j => j = .str d

/-- A field of the editor's object gives an override: it has the override's key and a value
that gives it. -/
def Gives (o : Override) (kv : String × Json) : Prop := o.key = kv.1 ∧ o.WrittenAs kv.2

theorem key_mem_keys (o : Override) : o.key ∈ keys := by
  cases o <;> simp [key, keys]

end Override

/-- The fields of the editor's object that count: those whose key names a setting and whose
value is not `null`. -/
def counted (fields : List (String × Json)) : List (String × Json) :=
  fields.filter fun kv => !kv.2.isNull && decide (kv.1 ∈ keys)

/-! ## Reading one field -/

theorem readField_of_not_mem {k : String} (hk : k ∉ keys) (t : Settings) (j : Json) :
    readField t (k, j) = some t := by
  simp only [keys, List.mem_cons, List.not_mem_nil, or_false, not_or] at hk
  unfold readField
  split <;> simp_all

theorem namedBy_of_choiceName? {j : Json} {n : String} (h : choiceName? j = some n) :
    Override.NamedBy n j := by
  unfold choiceName? at h
  split at h
  · exact .inl (by cases h; rfl)
  · exact .inr (by cases h; rfl)
  · cases h

theorem exists_namedBy_of_readExact {α : Type} {table : List (String × α)} {j : Json} {a : α}
    (h : readExact table j = some a) : ∃ n, (n, a) ∈ table ∧ Override.NamedBy n j := by
  obtain ⟨n, hn, hfind⟩ := Option.bind_eq_some_iff.mp h
  obtain ⟨e, he, rfl⟩ := Option.map_eq_some_iff.mp hfind
  have hkey : e.1 = n := by simpa using List.find?_some he
  exact ⟨n, hkey ▸ List.mem_of_find?_eq_some he, namedBy_of_choiceName? hn⟩

theorem readField_of_writtenAs (t : Settings) {o : Override} {j : Json} (h : o.WrittenAs j) :
    readField t (o.key, j) = some (o.apply t) := by
  cases o with
  | command c =>
    obtain rfl : j = .str c := h
    simp [readField, Override.key, Override.apply, Json.getStr?]
  | showErrors m =>
    rcases h with rfl | rfl <;> cases m <;>
      simp [readField, readExact, choiceName?, Override.key, Override.apply, DisplayMode.name]
  | maxErrors n =>
    obtain ⟨hn, rfl⟩ := h
    simp [readField, readMaxErrors, Override.key, Override.apply, hn]
  | outputFormat l =>
    rcases h with rfl | rfl <;> cases l <;>
      simp [readField, readExact, choiceName?, Override.key, Override.apply, Layout.name]
  | severity e =>
    rcases h with rfl | rfl <;> cases e <;>
      simp [readField, readExact, choiceName?, Override.key, Override.apply, Severity.name]
  | docsUrl d =>
    obtain rfl : j = .str d := h
    simp [readField, Override.key, Override.apply, Json.getStr?]

theorem exists_gives_of_readField {t q : Settings} {k : String} {j : Json} (hk : k ∈ keys)
    (hj : j.isNull = false) (h : readField t (k, j) = some q) : ∃ o : Override, o.Gives (k, j) := by
  simp only [keys, List.mem_cons, List.not_mem_nil, or_false] at hk
  rcases hk with rfl | rfl | rfl | rfl | rfl | rfl
  · obtain ⟨c, hc, -⟩ := Option.map_eq_some_iff.mp h
    cases j <;> simp [Json.getStr?] at hc
    exact ⟨.command c, rfl, by simp [Override.WrittenAs, hc]⟩
  · obtain ⟨m, hm, -⟩ := Option.map_eq_some_iff.mp h
    obtain ⟨n, hn, hnamed⟩ := exists_namedBy_of_readExact hm
    simp only [List.mem_cons, Prod.mk.injEq, List.not_mem_nil, or_false] at hn
    rcases hn with ⟨rfl, rfl⟩ | ⟨rfl, rfl⟩
    · exact ⟨.showErrors .one, rfl, hnamed⟩
    · exact ⟨.showErrors .all, rfl, hnamed⟩
  · obtain ⟨m, hm, -⟩ := Option.map_eq_some_iff.mp h
    -- A value that is not `null` reads only as an integer that fits.
    cases j with
    | num x =>
      cases x with
      | int i =>
        simp only [readMaxErrors] at hm
        by_cases hi : 0 ≤ i ∧ i ≤ sizeMax
        · exact ⟨.maxErrors i.toNat, rfl, by omega, by simp [Int.toNat_of_nonneg hi.1]⟩
        · simp [hi] at hm
      | float x => simp [readMaxErrors] at hm
    | null => simp [Json.isNull] at hj
    | _ => simp [readMaxErrors] at hm
  · obtain ⟨l, hl, -⟩ := Option.map_eq_some_iff.mp h
    obtain ⟨n, hn, hnamed⟩ := exists_namedBy_of_readExact hl
    simp only [List.mem_cons, Prod.mk.injEq, List.not_mem_nil, or_false] at hn
    rcases hn with ⟨rfl, rfl⟩ | ⟨rfl, rfl⟩
    · exact ⟨.outputFormat .tabbed, rfl, hnamed⟩
    · exact ⟨.outputFormat .colon, rfl, hnamed⟩
  · obtain ⟨e, he, -⟩ := Option.map_eq_some_iff.mp h
    obtain ⟨n, hn, hnamed⟩ := exists_namedBy_of_readExact he
    simp only [List.mem_cons, Prod.mk.injEq, List.not_mem_nil, or_false] at hn
    rcases hn with ⟨rfl, rfl⟩ | ⟨rfl, rfl⟩
    · exact ⟨.severity .error, rfl, hnamed⟩
    · exact ⟨.severity .warning, rfl, hnamed⟩
  · obtain ⟨d, hd, -⟩ := Option.map_eq_some_iff.mp h
    cases j <;> simp [Json.getStr?] at hd
    exact ⟨.docsUrl d, rfl, by simp [Override.WrittenAs, hd]⟩

theorem readField_eq_none {k : String} {j : Json} (hk : k ∈ keys) (hj : j.isNull = false)
    (h : ∀ o : Override, ¬ o.Gives (k, j)) (t : Settings) : readField t (k, j) = none := by
  cases hr : readField t (k, j) with
  | none => rfl
  | some q =>
    obtain ⟨o, ho⟩ := exists_gives_of_readField hk hj hr
    exact absurd ho (h o)

theorem readField_apply_of_ne (t : Settings) {o : Override} {kv : String × Json}
    (hk : kv.1 ≠ o.key) : readField (o.apply t) kv = (readField t kv).map o.apply := by
  obtain ⟨k, j⟩ := kv
  by_cases hmem : k ∈ keys
  · simp only [keys, List.mem_cons, List.not_mem_nil, or_false] at hmem
    rcases hmem with rfl | rfl | rfl | rfl | rfl | rfl <;> cases o <;>
      simp_all [readField, Override.apply, Override.key, Function.comp_def]
  · rw [readField_of_not_mem hmem, readField_of_not_mem hmem]
    rfl

theorem apply_of_readField {t q : Settings} {o : Override} {w : Json}
    (h : readField t (o.key, w) = some q) : o.apply q = o.apply t := by
  cases o <;> simp only [Override.key, readField] at h <;>
    obtain ⟨_, -, rfl⟩ := Option.map_eq_some_iff.mp h <;> rfl

theorem Override.WrittenAs.isNull {o : Override} {j : Json} (h : o.WrittenAs j) :
    j.isNull = false := by
  cases o with
  | command c => rw [show j = .str c from h]; rfl
  | showErrors m => rcases h with h | h <;> rw [h] <;> rfl
  | maxErrors n => rw [h.2]; rfl
  | outputFormat l => rcases h with h | h <;> rw [h] <;> rfl
  | severity e => rcases h with h | h <;> rw [h] <;> rfl
  | docsUrl d => rw [show j = .str d from h]; rfl

/-! ## Reading written fields -/

theorem foldlM_readField_of_not_mem {rest : List (String × Json)} (h : ∀ kv ∈ rest, kv.1 ∉ keys)
    (t : Settings) : rest.foldlM readField t = some t := by
  induction rest generalizing t with
  | nil => rfl
  | cons kv rest ih =>
    obtain ⟨k, j⟩ := kv
    rw [List.foldlM_cons, readField_of_not_mem (h (k, j) List.mem_cons_self)]
    exact ih (fun kv hkv => h kv (List.mem_cons_of_mem _ hkv)) t

theorem foldlM_readField_eq_none {fields : List (String × Json)} {kv : String × Json}
    (hkv : kv ∈ fields) (h : ∀ t, readField t kv = none) (t : Settings) :
    fields.foldlM readField t = none := by
  induction fields generalizing t with
  | nil => cases hkv
  | cons kv' fields ih =>
    rw [List.foldlM_cons]
    rcases List.mem_cons.mp hkv with rfl | hkv
    · rw [h t]
      rfl
    · cases readField t kv' with
      | none => rfl
      | some q => exact ih hkv q

theorem foldlM_readField_apply {fields : List (String × Json)} {o : Override}
    (h : ∀ kv ∈ fields, kv.1 ≠ o.key) (t : Settings) :
    fields.foldlM readField (o.apply t) = (fields.foldlM readField t).map o.apply := by
  induction fields generalizing t with
  | nil => rfl
  | cons kv fields ih =>
    have ih' := ih fun kv' hkv' => h kv' (List.mem_cons_of_mem _ hkv')
    rw [List.foldlM_cons, List.foldlM_cons, readField_apply_of_ne t (h kv List.mem_cons_self)]
    cases readField t kv with
    | none => rfl
    | some q => exact ih' q

theorem foldlM_readField_setField {fields : List (String × Json)}
    (hnd : (fields.map (·.1)).Nodup) {o : Override} {v : Json} (hv : o.WrittenAs v)
    (hk : o.key ∈ fields.map (·.1)) {t s : Settings} (h : fields.foldlM readField t = some s) :
    (Json.setField fields o.key v).foldlM readField t = some (o.apply s) := by
  induction fields generalizing t with
  | nil => cases hk
  | cons kw fields ih =>
    obtain ⟨k, w⟩ := kw
    rw [List.map_cons, List.nodup_cons] at hnd
    rw [List.foldlM_cons] at h
    obtain ⟨q, hq, hrest⟩ := Option.bind_eq_some_iff.mp h
    by_cases hko : k = o.key
    · -- The field is replaced here; the later fields have other keys.
      subst hko
      have hother : ∀ kv ∈ fields, kv.1 ≠ o.key := fun kv hkv hkv' =>
        hnd.1 (List.mem_map.mpr ⟨kv, hkv, hkv'⟩)
      rw [Json.setField_cons_self hother, List.foldlM_cons, readField_of_writtenAs t hv]
      show fields.foldlM readField (o.apply t) = some (o.apply s)
      rw [← apply_of_readField hq, foldlM_readField_apply hother, hrest]
      rfl
    · have hk' : o.key ∈ fields.map (·.1) := by
        rcases List.mem_cons.mp hk with h' | h'
        · exact absurd h'.symm hko
        · exact h'
      rw [Json.setField_cons_of_ne hko, List.foldlM_cons, hq]
      exact ih hnd.2 hk' hrest

/-! ## Merging the editor's fields -/

/-- Merges one field of the editor's object into the written fields: `null` changes nothing,
any other value replaces or joins the field of its key. -/
def mergeStep (acc : List (String × Json)) (kv : String × Json) : List (String × Json) :=
  if kv.2.isNull then acc else Json.setField acc kv.1 kv.2

theorem fromValue_obj (fields : List (String × Json)) (fb : Settings) :
    fromValue (.obj fields) fb =
      ((fields.foldl mergeStep fb.toFields).foldlM readField default).getD fb := rfl

/-- Written fields that read as the settings `s`: the fields of the settings in the order the
fallback is written, reading as `s` whatever was read before, then fields that name no
setting. -/
def ReadsAs (s : Settings) (acc : List (String × Json)) : Prop :=
  ∃ six rest, acc = six ++ rest ∧ six.map (·.1) = keys ∧
    (∀ t, six.foldlM readField t = some s) ∧ ∀ kv ∈ rest, kv.1 ∉ keys

/-- Written fields in which the setting `k` has a value that never reads. -/
def Spoiled (k : String) (acc : List (String × Json)) : Prop :=
  ∃ six rest w, acc = six ++ rest ∧ six.map (·.1) = keys ∧ (k, w) ∈ six ∧
    (∀ t, readField t (k, w) = none) ∧ ∀ kv ∈ rest, kv.1 ∉ keys

theorem readsAs_toFields {fb : Settings} (hfb : ∀ n ∈ fb.maxErrors, n ≤ sizeMax) :
    ReadsAs fb fb.toFields := by
  refine ⟨fb.toFields, [], by simp, rfl, fun t => ?_, by simp⟩
  obtain ⟨c, m, mx, l, e, d⟩ := fb
  cases mx with
  | none =>
    cases m <;> cases l <;> cases e <;>
      simp [toFields, readField, readExact, choiceName?, readMaxErrors, Json.getStr?,
        DisplayMode.name, Layout.name, Severity.name]
  | some n =>
    have hn : n ≤ sizeMax := hfb n rfl
    cases m <;> cases l <;> cases e <;>
      simp [toFields, readField, readExact, choiceName?, readMaxErrors, Json.getStr?, Json.nat,
        DisplayMode.name, Layout.name, Severity.name, hn]

theorem ReadsAs.read {s : Settings} {acc : List (String × Json)} (h : ReadsAs s acc)
    (t : Settings) : acc.foldlM readField t = some s := by
  obtain ⟨six, rest, rfl, -, hsix, hrest⟩ := h
  rw [List.foldlM_append, hsix t]
  exact foldlM_readField_of_not_mem hrest s

theorem Spoiled.read {k : String} {acc : List (String × Json)} (h : Spoiled k acc)
    (t : Settings) : acc.foldlM readField t = none := by
  obtain ⟨six, rest, w, rfl, -, hw, hnone, -⟩ := h
  rw [List.foldlM_append, foldlM_readField_eq_none hw hnone t]
  rfl

section Written

variable {six rest : List (String × Json)} (hkeys : six.map (·.1) = keys)
  (hrest : ∀ kv ∈ rest, kv.1 ∉ keys)
include hkeys hrest

theorem setField_six_of_mem {k : String} (hk : k ∈ keys) (v : Json) :
    Json.setField (six ++ rest) k v = Json.setField six k v ++ rest ∧
      (Json.setField six k v).map (·.1) = keys := by
  have hmem : k ∈ six.map (·.1) := hkeys ▸ hk
  exact ⟨Json.setField_append_of_mem six rest hmem fun kv hkv hk' => hrest kv hkv (hk' ▸ hk),
    (Json.keys_setField_of_mem hmem).trans hkeys⟩

theorem setField_rest_of_not_mem {k : String} (hk : k ∉ keys) (v : Json) :
    Json.setField (six ++ rest) k v = six ++ Json.setField rest k v ∧
      ∀ kv ∈ Json.setField rest k v, kv.1 ∉ keys := by
  have hne : ∀ kv ∈ six, kv.1 ≠ k := by
    intro kv hkv hkv'
    apply hk
    rw [← hkeys, ← hkv']
    exact List.mem_map_of_mem hkv
  refine ⟨Json.setField_append_of_not_mem six rest hne, fun kv hkv => ?_⟩
  rcases Json.mem_setField hkv with hkv | rfl
  · exact hrest kv hkv
  · exact hk

end Written

theorem ReadsAs.setField_of_not_mem {s : Settings} {acc : List (String × Json)}
    (h : ReadsAs s acc) {k : String} (hk : k ∉ keys) (v : Json) :
    ReadsAs s (Json.setField acc k v) := by
  obtain ⟨six, rest, rfl, hkeys, hsix, hrest⟩ := h
  obtain ⟨heq, hrest'⟩ := setField_rest_of_not_mem hkeys hrest hk v
  exact ⟨six, _, heq, hkeys, hsix, hrest'⟩

theorem ReadsAs.setField_gives {s : Settings} {acc : List (String × Json)} (h : ReadsAs s acc)
    {o : Override} {v : Json} (hv : o.WrittenAs v) :
    ReadsAs (o.apply s) (Json.setField acc o.key v) := by
  obtain ⟨six, rest, rfl, hkeys, hsix, hrest⟩ := h
  obtain ⟨heq, hkeys'⟩ := setField_six_of_mem hkeys hrest o.key_mem_keys v
  have hnd : (six.map (·.1)).Nodup := hkeys ▸ by decide
  exact ⟨_, rest, heq, hkeys',
    fun t => foldlM_readField_setField hnd hv (hkeys ▸ o.key_mem_keys) (hsix t), hrest⟩

theorem ReadsAs.setField_spoils {s : Settings} {acc : List (String × Json)} (h : ReadsAs s acc)
    {k : String} (hk : k ∈ keys) {v : Json} (hv : ∀ t, readField t (k, v) = none) :
    Spoiled k (Json.setField acc k v) := by
  obtain ⟨six, rest, rfl, hkeys, -, hrest⟩ := h
  obtain ⟨heq, hkeys'⟩ := setField_six_of_mem hkeys hrest hk v
  exact ⟨_, rest, v, heq, hkeys', Json.mem_setField_self (hkeys ▸ hk), hv, hrest⟩

theorem Spoiled.setField {k : String} {acc : List (String × Json)} (h : Spoiled k acc)
    {k' : String} (hk : k' ≠ k) (v : Json) : Spoiled k (Json.setField acc k' v) := by
  obtain ⟨six, rest, w, rfl, hkeys, hw, hnone, hrest⟩ := h
  by_cases hk' : k' ∈ keys
  · obtain ⟨heq, hkeys'⟩ := setField_six_of_mem hkeys hrest hk' v
    exact ⟨_, rest, w, heq, hkeys', Json.mem_setField_of_ne hw (Ne.symm hk), hnone, hrest⟩
  · obtain ⟨heq, hrest'⟩ := setField_rest_of_not_mem hkeys hrest hk' v
    exact ⟨six, _, w, heq, hkeys, hw, hnone, hrest'⟩

/-! ## The merge, one field at a time -/

theorem counted_cons (kv : String × Json) (fields : List (String × Json)) :
    counted (kv :: fields) =
      if !kv.2.isNull && decide (kv.1 ∈ keys) then kv :: counted fields else counted fields := by
  unfold counted
  rw [List.filter_cons]

theorem ReadsAs.mergeStep_of_not_counted {s : Settings} {acc : List (String × Json)}
    (h : ReadsAs s acc) {kv : String × Json}
    (hkv : (!kv.2.isNull && decide (kv.1 ∈ keys)) = false) : ReadsAs s (mergeStep acc kv) := by
  unfold mergeStep
  split
  · exact h
  · rename_i hnull
    have hk : kv.1 ∉ keys := by simpa [hnull] using hkv
    exact h.setField_of_not_mem hk kv.2

theorem ReadsAs.mergeStep_gives {s : Settings} {acc : List (String × Json)} (h : ReadsAs s acc)
    {o : Override} {kv : String × Json} (ho : o.Gives kv) :
    ReadsAs (o.apply s) (mergeStep acc kv) := by
  obtain ⟨k, j⟩ := kv
  obtain ⟨rfl, hj⟩ := ho
  rw [mergeStep, if_neg (by simp [hj.isNull])]
  exact h.setField_gives hj

theorem Spoiled.mergeStep_of_ne {k : String} {acc : List (String × Json)} (h : Spoiled k acc)
    {kv : String × Json} (hk : kv.1 ≠ k) : Spoiled k (mergeStep acc kv) := by
  unfold mergeStep
  split
  · exact h
  · exact h.setField hk kv.2

theorem ReadsAs.foldl_mergeStep {s : Settings} {acc : List (String × Json)} (h : ReadsAs s acc)
    (fields : List (String × Json)) {os : List Override}
    (hos : List.Forall₂ Override.Gives os (counted fields)) :
    ReadsAs (os.foldl Override.apply s) (fields.foldl mergeStep acc) := by
  induction fields generalizing s acc os with
  | nil =>
    cases List.forall₂_nil_right_iff.mp hos
    exact h
  | cons kv fields ih =>
    rw [counted_cons] at hos
    rw [List.foldl_cons]
    split at hos
    · obtain ⟨o, os', ho, hos', rfl⟩ := List.forall₂_cons_right_iff.mp hos
      exact ih (h.mergeStep_gives ho) hos'
    · rename_i hkv
      exact ih (h.mergeStep_of_not_counted (by simpa using hkv)) hos

theorem Spoiled.foldl_mergeStep {k : String} {acc : List (String × Json)} (h : Spoiled k acc)
    (fields : List (String × Json)) (hk : ∀ kv ∈ fields, kv.1 ≠ k) :
    Spoiled k (fields.foldl mergeStep acc) := by
  induction fields generalizing acc with
  | nil => exact h
  | cons kv fields ih =>
    rw [List.foldl_cons]
    exact ih (h.mergeStep_of_ne (hk kv List.mem_cons_self))
      fun kv' hkv' => hk kv' (List.mem_cons_of_mem _ hkv')

theorem ReadsAs.foldl_mergeStep_spoils {s : Settings} {acc : List (String × Json)}
    (h : ReadsAs s acc) (fields : List (String × Json)) (hnd : (fields.map (·.1)).Nodup)
    (hbad : ∃ kv ∈ counted fields, ∀ o : Override, ¬ o.Gives kv) :
    ∃ k, Spoiled k (fields.foldl mergeStep acc) := by
  induction fields generalizing s acc with
  | nil => simp [counted] at hbad
  | cons kv fields ih =>
    rw [List.map_cons, List.nodup_cons] at hnd
    rw [counted_cons] at hbad
    rw [List.foldl_cons]
    split at hbad
    · rename_i hkv
      by_cases hgood : ∃ o : Override, o.Gives kv
      · -- This field is good, so the bad one comes later.
        obtain ⟨o, ho⟩ := hgood
        obtain ⟨kv', hkv', hbad'⟩ := hbad
        rcases List.mem_cons.mp hkv' with rfl | hkv'
        · exact absurd ho (hbad' o)
        · exact ih (h.mergeStep_gives ho) hnd.2 ⟨kv', hkv', hbad'⟩
      · -- This field is the bad one: it spoils the fields, and no later field has its key.
        obtain ⟨k, j⟩ := kv
        simp only [Bool.and_eq_true, Bool.not_eq_true', decide_eq_true_eq] at hkv
        have hnone := readField_eq_none hkv.2 hkv.1 fun o ho => hgood ⟨o, ho⟩
        have hspoiled : Spoiled k (mergeStep acc (k, j)) := by
          rw [mergeStep, if_neg (by simp [hkv.1])]
          exact h.setField_spoils hkv.2 hnone
        exact ⟨k, hspoiled.foldl_mergeStep fields fun kv' hkv' hk =>
          hnd.1 (List.mem_map.mpr ⟨kv', hkv', hk⟩)⟩
    · rename_i hkv
      exact ih (h.mergeStep_of_not_counted (by simpa using hkv)) hnd.2 hbad

/-! ## Settings laid over a fallback -/

/-- Settings from the editor laid over fallback settings whose count fits in 64 bits. A value
that is not an object leaves the fallback. For an object with distinct keys, only the fields
that count matter: when each of them gives an override, the result is the fallback with
exactly those fields replaced, and when one of them gives none, the result is the fallback. So
no other field changes the result, and `null` never clears a field. -/
theorem fromValue_overlay (fb : Settings) (hfb : ∀ n ∈ fb.maxErrors, n ≤ sizeMax) :
    (∀ v : Json, (∀ fields, v ≠ .obj fields) → fromValue v fb = fb) ∧
    ∀ fields : List (String × Json), (fields.map (·.1)).Nodup →
      (∀ os : List Override, List.Forall₂ Override.Gives os (counted fields) →
        fromValue (.obj fields) fb = os.foldl Override.apply fb) ∧
      ((∃ kv ∈ counted fields, ∀ o : Override, ¬ o.Gives kv) → fromValue (.obj fields) fb = fb) := by
  refine ⟨fun v hv => ?_, fun fields hnd => ⟨fun os hos => ?_, fun hbad => ?_⟩⟩
  · cases v with
    | obj fields => exact absurd rfl (hv fields)
    | _ => rfl
  · rw [fromValue_obj, ((readsAs_toFields hfb).foldl_mergeStep fields hos).read default]
    rfl
  · obtain ⟨k, hk⟩ := (readsAs_toFields hfb).foldl_mergeStep_spoils fields hnd hbad
    rw [fromValue_obj, hk.read default]
    rfl

theorem fromValue_overlay_count_and_unknown :
    (∀ n ∈ Settings.default.maxErrors, n ≤ sizeMax) ∧
    ([("maxErrors", Json.nat 3), ("trace", Json.str "verbose")].map (·.1)).Nodup ∧
    ∀ os : List Override,
      List.Forall₂ Override.Gives os (counted [("maxErrors", Json.nat 3), ("trace", .str "verbose")]) →
        fromValue (.obj [("maxErrors", Json.nat 3), ("trace", .str "verbose")]) Settings.default =
          os.foldl Override.apply Settings.default := by
  have hfb : ∀ n ∈ Settings.default.maxErrors, n ≤ sizeMax := by simp [Settings.default]
  have hnd : ([("maxErrors", Json.nat 3), ("trace", Json.str "verbose")].map (·.1)).Nodup := by
    decide
  exact ⟨hfb, hnd, ((fromValue_overlay Settings.default hfb).2 _ hnd).1⟩

/-- A choice written as an object whose only key is its name and whose value is `null` is read
as that choice, not refused. -/
theorem fromValue_choice_as_object :
    fromValue (.obj [("showErrors", .obj [("one", .null)])])
        { Settings.default with maxErrors := some 9 } =
      { Settings.default with showErrors := .one, maxErrors := some 9 } ∧
    fromValue (.obj [("showErrors", .obj [("one", .null)])])
        { Settings.default with maxErrors := some 9 } ≠
      { Settings.default with maxErrors := some 9 } := by
  decide

end LintBridge.Settings
