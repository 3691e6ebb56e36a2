import LintBridge.Session
import Mathlib.Data.List.Dedup

/-!
# Runs of a session

`Session.exec` performs a list of operations and lists the replies. A run token stays current
exactly until its document starts another run, is evicted, or the token finishes; so a document
has at most one current run, published at most once.
-/

namespace LintBridge

/-! ## Keyed maps -/

namespace KeyMap

variable {α : Type}

/-- The keys of a map, in order. -/
def keys (m : KeyMap α) : List String := m.map (·.1)

theorem get?_insert (m : KeyMap α) (k k' : String) (v : α) :
    (m.insert k v).get? k' = if k = k' then some v else m.get? k' := by
  unfold insert get?
  by_cases h : k = k'
  · subst h
    split
    · rename_i hany
      obtain ⟨p, hp⟩ : ∃ p, m.find? (fun p => p.1 == k) = some p :=
        Option.isSome_iff_exists.mp (List.find?_isSome.mpr (List.any_eq_true.mp hany))
      have hk : p.1 = k := by simpa using List.find?_some hp
      -- Replacing the pair at `k` moves no key, so the search stops at the same pair.
      have hpred : ((fun p : String × α => p.1 == k) ∘ fun p => if p.1 == k then (k, v) else p) =
          fun p => p.1 == k := by
        funext p
        by_cases hp : p.1 = k <;> simp [hp]
      rw [List.find?_map, hpred, hp]
      simp [hk]
    · rename_i hany
      have hnone : m.find? (fun p => p.1 == k) = none :=
        List.find?_eq_none.mpr fun p hp hk => hany (List.any_eq_true.mpr ⟨p, hp, hk⟩)
      simp [List.find?_append, hnone]
  · split
    · have hpred : ((fun p : String × α => p.1 == k') ∘ fun p => if p.1 == k then (k, v) else p) =
          fun p => p.1 == k' := by
        funext p
        by_cases hp : p.1 = k <;> simp [hp]
      rw [List.find?_map, hpred]
      cases hf : m.find? (fun p => p.1 == k') with
      | none => simp
      | some p =>
        have hk : p.1 = k' := by simpa using List.find?_some hf
        simp [hk, Ne.symm h]
    · simp [List.find?_append, h]

theorem get?_erase (m : KeyMap α) (k k' : String) :
    (m.erase k).get? k' = if k = k' then none else m.get? k' := by
  unfold erase get?
  rw [List.find?_filter]
  split_ifs with h
  · subst h
    simp
  · congr 2
    funext p
    by_cases hp : p.1 = k'
    · simp [hp, Ne.symm h]
    · simp [hp]

theorem mem_keys_iff (m : KeyMap α) (k : String) : k ∈ m.keys ↔ ∃ v, m.get? k = some v := by
  simp only [keys, List.mem_map, get?, Option.map_eq_some_iff]
  constructor
  · rintro ⟨p, hp, rfl⟩
    obtain ⟨q, hq⟩ : ∃ q, m.find? (fun q => q.1 == p.1) = some q :=
      Option.isSome_iff_exists.mp (List.find?_isSome.mpr ⟨p, hp, by simp⟩)
    exact ⟨q.2, q, hq, rfl⟩
  · rintro ⟨v, q, hq, -⟩
    exact ⟨q, List.mem_of_find?_eq_some hq, by simpa using List.find?_some hq⟩

theorem keys_insert (m : KeyMap α) (k : String) (v : α) :
    (m.insert k v).keys = if k ∈ m.keys then m.keys else m.keys ++ [k] := by
  unfold insert keys
  by_cases h : k ∈ m.map (·.1)
  · have hany : m.any (·.1 == k) = true := by
      obtain ⟨p, hp, rfl⟩ := List.mem_map.mp h
      exact List.any_eq_true.mpr ⟨p, hp, by simp⟩
    -- The pair at `k` is rewritten in place; no key moves.
    simp only [hany, if_true, h, List.map_map]
    congr 1
    funext p
    by_cases hp : p.1 = k <;> simp [hp]
  · have hany : m.any (·.1 == k) = false := Bool.eq_false_iff.mpr fun hany => by
      obtain ⟨p, hp, hpk⟩ := List.any_eq_true.mp hany
      exact h (List.mem_map.mpr ⟨p, hp, by simpa using hpk⟩)
    simp [hany, h]

theorem nodup_keys_insert {m : KeyMap α} (h : m.keys.Nodup) (k : String) (v : α) :
    (m.insert k v).keys.Nodup := by
  rw [keys_insert]
  split_ifs with hk
  · exact h
  · exact h.append (List.nodup_singleton k) (by simpa using hk)

theorem nodup_keys_erase {m : KeyMap α} (h : m.keys.Nodup) (k : String) :
    (m.erase k).keys.Nodup :=
  h.sublist (List.Sublist.map _ (List.filter_sublist))

end KeyMap

namespace Session

/-! ## Operations

Each operation of a session, with its arguments, and what it gives back. -/

/-- An operation on a session. -/
inductive Op where
  | cachedSettings (key : String)
  | cacheSettings (key : String) (v : Settings)
  | settingsGeneration
  | cacheSettingsFrom (generation : Nat) (key : String) (v : Settings)
  | evict (key : String)
  | clearSettings
  | beginRun (key : String)
  | isCurrent (t : RunToken)
  | finishRun (t : RunToken)
  | inFlightCount
  deriving DecidableEq

/-- What an operation gives back. -/
inductive Reply where
  | done
  | settings (v : Option Settings)
  | number (n : Nat)
  | flag (b : Bool)
  | token (t : RunToken)
  deriving DecidableEq

/-- Performs one operation. -/
def perform (s : Session) : Op → Reply × Session
  | .cachedSettings k => (.settings (s.cachedSettings k), s)
  | .cacheSettings k v => (.done, s.cacheSettings k v)
  | .settingsGeneration => (.number s.settingsGeneration, s)
  | .cacheSettingsFrom g k v => ((.flag (s.cacheSettingsFrom g k v).1), (s.cacheSettingsFrom g k v).2)
  | .evict k => (.done, s.evict k)
  | .clearSettings => (.done, s.clearSettings)
  | .beginRun k => (.token (s.beginRun k).1, (s.beginRun k).2)
  | .isCurrent t => (.flag (s.isCurrent t), s)
  | .finishRun t => (.flag (s.finishRun t).1, (s.finishRun t).2)
  | .inFlightCount => (.number s.inFlightCount, s)

/-- Performs operations in order: every reply, and the session after the last one. -/
def exec (s : Session) : List Op → List Reply × Session
  | [] => ([], s)
  | op :: ops =>
    let (rs, s') := (s.perform op).2.exec ops
    ((s.perform op).1 :: rs, s')

/-- The token a reply hands out, if it is one. -/
@[simp] def Reply.token? : Reply → Option RunToken
  | .token t => some t
  | _ => none

/-- The tokens handed out, in order. -/
def issued (rs : List Reply) : List RunToken := rs.filterMap Reply.token?

@[simp] theorem exec_nil (s : Session) : s.exec [] = ([], s) := rfl

@[simp] theorem exec_cons (s : Session) (op : Op) (ops : List Op) :
    s.exec (op :: ops) =
      ((s.perform op).1 :: ((s.perform op).2.exec ops).1, ((s.perform op).2.exec ops).2) := rfl

@[simp] theorem issued_cons (r : Reply) (rs : List Reply) :
    issued (r :: rs) = r.token?.toList ++ issued rs := by
  cases r <;> rfl

@[simp] theorem issued_nil : issued [] = [] := rfl

@[simp] theorem issued_append (rs rs' : List Reply) : issued (rs ++ rs') = issued rs ++ issued rs' :=
  List.filterMap_append

/-! ## What each operation does to the runs -/

theorem isCurrent_iff {s : Session} {t : RunToken} :
    s.isCurrent t = true ↔ s.inFlight.get? t.key = some t.generation := by
  simp [isCurrent]

@[simp] theorem beginRun_token (s : Session) (k : String) :
    (s.beginRun k).1 = ⟨k, s.nextGeneration + 1⟩ := rfl

@[simp] theorem beginRun_inFlight (s : Session) (k : String) :
    (s.beginRun k).2.inFlight = s.inFlight.insert k (s.nextGeneration + 1) := rfl

@[simp] theorem beginRun_nextGeneration (s : Session) (k : String) :
    (s.beginRun k).2.nextGeneration = s.nextGeneration + 1 := rfl

@[simp] theorem evict_inFlight (s : Session) (k : String) :
    (s.evict k).inFlight = s.inFlight.erase k := rfl

@[simp] theorem evict_nextGeneration (s : Session) (k : String) :
    (s.evict k).nextGeneration = s.nextGeneration := rfl

theorem finishRun_fst (s : Session) (t : RunToken) : (s.finishRun t).1 = s.isCurrent t := by
  unfold finishRun
  split <;> simp_all

@[simp] theorem perform_finishRun_fst (s : Session) (t : RunToken) :
    (s.perform (.finishRun t)).1 = .flag (s.isCurrent t) := by
  simp [perform, finishRun_fst]

theorem finishRun_of_isCurrent {s : Session} {t : RunToken} (h : s.isCurrent t = true) :
    s.finishRun t = (true, { s with inFlight := s.inFlight.erase t.key }) := by
  simp [finishRun, h]

theorem finishRun_of_not_isCurrent {s : Session} {t : RunToken} (h : s.isCurrent t = false) :
    s.finishRun t = (false, s) := by
  simp [finishRun, h]

theorem perform_inFlight (s : Session) (op : Op) :
    (s.perform op).2.inFlight =
      match op with
      | .beginRun k => s.inFlight.insert k (s.nextGeneration + 1)
      | .evict k => s.inFlight.erase k
      | .finishRun t => if s.isCurrent t then s.inFlight.erase t.key else s.inFlight
      | _ => s.inFlight := by
  cases op with
  | cacheSettingsFrom g k v =>
    simp only [perform, cacheSettingsFrom]
    split <;> rfl
  | finishRun t =>
    cases h : s.isCurrent t
    · simp [perform, finishRun_of_not_isCurrent h, h]
    · simp [perform, finishRun_of_isCurrent h, h]
  | _ => rfl

theorem eq_of_isCurrent {s : Session} {t t' : RunToken} (hc : s.isCurrent t = true)
    (hc' : s.isCurrent t' = true) (hk : t.key = t'.key) : t = t' := by
  have hg : t.generation = t'.generation := by
    have := (isCurrent_iff.mp hc).symm.trans (hk ▸ isCurrent_iff.mp hc')
    simpa using this
  cases t; cases t'; simp_all

theorem perform_nextGeneration (s : Session) (op : Op) :
    (s.perform op).2.nextGeneration =
      match op with
      | .beginRun _ => s.nextGeneration + 1
      | _ => s.nextGeneration := by
  cases op with
  | cacheSettingsFrom g k v =>
    simp only [perform, cacheSettingsFrom]
    split <;> rfl
  | finishRun t =>
    cases h : s.isCurrent t
    · simp [perform, finishRun_of_not_isCurrent h]
    · simp [perform, finishRun_of_isCurrent h]
  | _ => rfl

theorem nextGeneration_le_perform (s : Session) (op : Op) :
    s.nextGeneration ≤ (s.perform op).2.nextGeneration := by
  rw [perform_nextGeneration]
  split <;> omega

theorem issued_perform (s : Session) (op : Op) :
    issued [(s.perform op).1] =
      match op with
      | .beginRun k => [⟨k, s.nextGeneration + 1⟩]
      | _ => [] := by
  cases op <;> rfl

/-! ## One token through one operation -/

theorem isCurrent_perform {s : Session} {t : RunToken} (ht : t.generation ≤ s.nextGeneration)
    (op : Op) :
    (s.perform op).2.isCurrent t = true ↔
      s.isCurrent t = true ∧ op ≠ .beginRun t.key ∧ op ≠ .evict t.key ∧
        (op, (s.perform op).1) ≠ (.finishRun t, .flag true) := by
  rw [isCurrent_iff, isCurrent_iff, perform_inFlight]
  cases op with
  | beginRun k =>
    -- The new run's generation is above every token handed out so far.
    by_cases hk : k = t.key
    · subst hk
      simp [KeyMap.get?_insert]
      omega
    · simp [KeyMap.get?_insert, hk]
  | evict k =>
    by_cases hk : k = t.key
    · subst hk
      simp [KeyMap.get?_erase]
    · simp [KeyMap.get?_erase, hk]
  | finishRun t' =>
    rw [perform_finishRun_fst]
    cases hc : s.isCurrent t' with
    | false => simp [hc]
    | true =>
      simp only [hc, if_true, KeyMap.get?_erase]
      by_cases hk : t'.key = t.key
      · -- A current token of `t`'s document is `t` itself.
        simp only [hk, if_true, reduceCtorEq, false_iff]
        rintro ⟨hg, -, -, hne⟩
        exact hne (by rw [eq_of_isCurrent hc (isCurrent_iff.mpr hg) hk])
      · have hne : t' ≠ t := fun h => hk (h ▸ rfl)
        simp [hk, hne]
  | _ => simp

/-! ## One token through a run of operations -/

theorem nextGeneration_le_exec (s : Session) (ops : List Op) :
    s.nextGeneration ≤ (s.exec ops).2.nextGeneration := by
  induction ops generalizing s with
  | nil => exact Nat.le_refl _
  | cons op ops ih => exact Nat.le_trans (nextGeneration_le_perform s op) (ih _)

theorem isCurrent_exec {s : Session} {t : RunToken} (ht : t.generation ≤ s.nextGeneration)
    (ops : List Op) :
    (s.exec ops).2.isCurrent t = true ↔
      s.isCurrent t = true ∧ .beginRun t.key ∉ ops ∧ .evict t.key ∉ ops ∧
        (.finishRun t, .flag true) ∉ ops.zip (s.exec ops).1 := by
  induction ops generalizing s with
  | nil => simp
  | cons op ops ih =>
    have ht' := Nat.le_trans ht (nextGeneration_le_perform s op)
    rw [exec_cons, ih ht', isCurrent_perform ht]
    simp only [List.mem_cons, List.zip_cons_cons, not_or]
    constructor
    · rintro ⟨⟨hc, hb, he, hf⟩, hb', he', hf'⟩
      exact ⟨hc, ⟨Ne.symm hb, hb'⟩, ⟨Ne.symm he, he'⟩, ⟨Ne.symm hf, hf'⟩⟩
    · rintro ⟨hc, ⟨hb, hb'⟩, ⟨he, he'⟩, ⟨hf, hf'⟩⟩
      exact ⟨⟨hc, Ne.symm hb, Ne.symm he, Ne.symm hf⟩, hb', he', hf'⟩

theorem isCurrent_exec_beginRun (s : Session) (k : String) (ops : List Op) :
    ((s.beginRun k).2.exec ops).2.isCurrent (s.beginRun k).1 = true ↔
      .beginRun k ∉ ops ∧ .evict k ∉ ops ∧
        (.finishRun (s.beginRun k).1, .flag true) ∉ ops.zip ((s.beginRun k).2.exec ops).1 := by
  rw [isCurrent_exec (by simp)]
  simp [isCurrent_iff, KeyMap.get?_insert]

theorem not_isCurrent_exec {s : Session} {t : RunToken} (ht : t.generation ≤ s.nextGeneration)
    (hc : s.isCurrent t = false) (ops : List Op) : (s.exec ops).2.isCurrent t = false := by
  cases h : (s.exec ops).2.isCurrent t
  · rfl
  · simp [(isCurrent_exec ht ops).mp h |>.1] at hc

theorem count_finish_eq_zero {s : Session} {t : RunToken} (ht : t.generation ≤ s.nextGeneration)
    (hc : s.isCurrent t = false) (ops : List Op) :
    (ops.zip (s.exec ops).1).count (.finishRun t, .flag true) = 0 := by
  induction ops generalizing s with
  | nil => rfl
  | cons op ops ih =>
    have hstep : (op, (s.perform op).1) ≠ (.finishRun t, .flag true) := by
      intro heq
      obtain ⟨rfl, hr⟩ := Prod.mk.inj heq
      simp [hc] at hr
    have hc' : (s.perform op).2.isCurrent t = false := by
      cases h : (s.perform op).2.isCurrent t
      · rfl
      · simp [((isCurrent_perform ht op).mp h).1] at hc
    rw [exec_cons, List.zip_cons_cons, List.count_cons_of_ne hstep]
    exact ih (Nat.le_trans ht (nextGeneration_le_perform s op)) hc'

/-! ## What every run from a new session keeps -/

/-- What the replies of a run and the session after it keep: the documents in flight are
distinct, every token handed out is at most the counter, tokens are handed out in increasing
generations, and a document in flight holds the newest token handed out for it. -/
structure Tracks (rs : List Reply) (s : Session) : Prop where
  keys_nodup : s.inFlight.keys.Nodup
  issued_le : ∀ t ∈ issued rs, t.generation ≤ s.nextGeneration
  increasing : (issued rs).Pairwise (·.generation < ·.generation)
  newest : ∀ k g, s.inFlight.get? k = some g →
    ((issued rs).filter (·.key = k)).getLast? = some ⟨k, g⟩

theorem tracks_empty : Tracks [] Session.empty where
  keys_nodup := List.nodup_nil
  issued_le := by simp [issued]
  increasing := List.Pairwise.nil
  newest := by simp [Session.empty, KeyMap.get?]

theorem Tracks.of_drop {rs : List Reply} {s s' : Session} {r : Reply} (h : Tracks rs s)
    (hiss : issued [r] = []) (hgen : s'.nextGeneration = s.nextGeneration)
    (hin : s'.inFlight = s.inFlight ∨ ∃ k, s'.inFlight = s.inFlight.erase k) :
    Tracks (rs ++ [r]) s' := by
  have hrs : issued (rs ++ [r]) = issued rs := by simp [issued_append, hiss]
  -- Every run in flight afterwards was in flight before.
  have hkept : ∀ k g, s'.inFlight.get? k = some g → s.inFlight.get? k = some g := by
    intro k g hg
    rcases hin with hin | ⟨k', hin⟩
    · rwa [hin] at hg
    · rw [hin, KeyMap.get?_erase] at hg
      split_ifs at hg
      exact hg
  refine ⟨?_, ?_, ?_, fun k g hg => ?_⟩
  · rcases hin with hin | ⟨k', hin⟩
    · exact hin ▸ h.keys_nodup
    · exact hin ▸ KeyMap.nodup_keys_erase h.keys_nodup k'
  · rw [hrs, hgen]
    exact h.issued_le
  · rw [hrs]
    exact h.increasing
  · rw [hrs]
    exact h.newest k g (hkept k g hg)

theorem Tracks.perform {rs : List Reply} {s : Session} (h : Tracks rs s) (op : Op) :
    Tracks (rs ++ [(s.perform op).1]) (s.perform op).2 := by
  have hgen := perform_nextGeneration s op
  have hin := perform_inFlight s op
  have hiss := issued_perform s op
  cases op with
  | beginRun k =>
    simp only at hgen hin hiss
    refine ⟨?_, ?_, ?_, ?_⟩
    · rw [hin]; exact KeyMap.nodup_keys_insert h.keys_nodup k _
    · simp only [issued_append, hiss, List.mem_append, List.mem_singleton, hgen]
      rintro t (ht | rfl)
      · exact Nat.le_succ_of_le (h.issued_le t ht)
      · exact Nat.le_refl _
    · simp only [issued_append, hiss]
      refine List.pairwise_append.mpr ⟨h.increasing, List.pairwise_singleton _ _, ?_⟩
      simp only [List.mem_singleton]
      rintro t ht _ rfl
      exact Nat.lt_succ_of_le (h.issued_le t ht)
    · intro k' g hg
      rw [hin, KeyMap.get?_insert] at hg
      simp only [issued_append, hiss, List.filter_append]
      by_cases hk : k = k'
      · subst hk
        simp only [if_true, Option.some.injEq] at hg
        subst hg
        simp
      · simp only [hk, if_false] at hg
        simpa [hk] using h.newest k' g hg
  | evict k =>
    simp only at hgen hin hiss
    exact h.of_drop hiss hgen (.inr ⟨k, hin⟩)
  | finishRun t =>
    simp only at hgen hin hiss
    split at hin
    · exact h.of_drop hiss hgen (.inr ⟨t.key, hin⟩)
    · exact h.of_drop hiss hgen (.inl hin)
  | _ =>
    simp only at hgen hin hiss
    exact h.of_drop hiss hgen (.inl hin)

theorem Tracks.exec {rs : List Reply} {s : Session} (h : Tracks rs s) (ops : List Op) :
    Tracks (rs ++ (s.exec ops).1) (s.exec ops).2 := by
  induction ops generalizing rs s with
  | nil => simpa using h
  | cons op ops ih => simpa using ih (h.perform op)

theorem tracks_exec (ops : List Op) : Tracks (Session.empty.exec ops).1 (Session.empty.exec ops).2 := by
  simpa using tracks_empty.exec ops

theorem Tracks.newest_of_isCurrent {rs : List Reply} {s : Session} (h : Tracks rs s)
    {t : RunToken} (hc : s.isCurrent t = true) :
    ((issued rs).filter (·.key = t.key)).getLast? = some t :=
  h.newest t.key t.generation (isCurrent_iff.mp hc)

theorem Tracks.mem_of_isCurrent {rs : List Reply} {s : Session} (h : Tracks rs s)
    {t : RunToken} (hc : s.isCurrent t = true) : t ∈ issued rs :=
  List.mem_of_mem_filter (List.mem_of_getLast? (h.newest_of_isCurrent hc))

theorem Tracks.le_of_isCurrent {rs : List Reply} {s : Session} (h : Tracks rs s)
    {t : RunToken} (hc : s.isCurrent t = true) : t.generation ≤ s.nextGeneration :=
  h.issued_le t (h.mem_of_isCurrent hc)

/-! ## Consequences -/

theorem Tracks.count_finish_le {rs : List Reply} {s : Session} (h : Tracks rs s) (t : RunToken)
    (ops : List Op) : (ops.zip (s.exec ops).1).count (.finishRun t, .flag true) ≤ 1 := by
  induction ops generalizing rs s with
  | nil => simp
  | cons op ops ih =>
    simp only [exec_cons, List.zip_cons_cons, List.count_cons, beq_iff_eq]
    split_ifs with hstep
    · -- The token finishes here; afterwards it is no longer current, and stays so.
      obtain ⟨rfl, hr⟩ := Prod.mk.inj hstep
      have hc : s.isCurrent t = true := by simpa using hr
      have hgone : (s.perform (.finishRun t)).2.isCurrent t = false := by
        cases h' : (s.perform (.finishRun t)).2.isCurrent t
        · rfl
        · simp [isCurrent_perform (h.le_of_isCurrent hc), hr] at h'
      have hzero := count_finish_eq_zero
        (Nat.le_trans (h.le_of_isCurrent hc) (nextGeneration_le_perform _ _)) hgone ops
      omega
    · simpa using ih (h.perform op)

theorem Tracks.inFlightCount_eq {rs : List Reply} {s : Session} (h : Tracks rs s) :
    s.inFlightCount = (((issued rs).filter (s.isCurrent ·)).map (·.key)).dedup.length := by
  -- The keys of the current tokens and the keys in flight are the same list up to order.
  have hnodup : (((issued rs).filter (s.isCurrent ·)).map (·.key)).Nodup := by
    refine List.Nodup.map_on (fun t ht t' ht' hk => ?_) ?_
    · exact eq_of_isCurrent (by simpa using (List.mem_filter.mp ht).2)
        (by simpa using (List.mem_filter.mp ht').2) hk
    · exact (h.increasing.imp fun hlt heq => Nat.ne_of_lt hlt (congrArg _ heq)).sublist
        List.filter_sublist
  have hperm : (((issued rs).filter (s.isCurrent ·)).map (·.key)).Perm s.inFlight.keys := by
    refine (List.perm_ext_iff_of_nodup hnodup h.keys_nodup).mpr fun k => ?_
    rw [KeyMap.mem_keys_iff]
    simp only [List.mem_map, List.mem_filter]
    constructor
    · rintro ⟨t, ⟨-, hc⟩, rfl⟩
      exact ⟨t.generation, isCurrent_iff.mp hc⟩
    · rintro ⟨g, hg⟩
      have hc : s.isCurrent ⟨k, g⟩ = true := isCurrent_iff.mpr hg
      exact ⟨⟨k, g⟩, ⟨h.mem_of_isCurrent hc, hc⟩, rfl⟩
  rw [hnodup.dedup, hperm.length_eq, inFlightCount, KeyMap.keys, List.length_map]

/-! ## Runs from a new session -/

/-- Run tokens over every sequence of operations from a new session. The token of a run stays
current exactly until its document starts another run, is evicted, or the token finishes with
a result. Generations increase; a document has at most one current token; a token finishes
with a result at most once, and only while it is the newest token of its document; a refused
finish changes nothing; and the documents in flight are the documents with a current token. -/
theorem run_token_lifetime (pre : List Op) (k : String) :
    (∀ post : List Op,
      let s := (Session.empty.exec pre).2.beginRun k
      (s.2.exec post).2.isCurrent s.1 = true ↔
        .beginRun k ∉ post ∧ .evict k ∉ post ∧
          (.finishRun s.1, .flag true) ∉ post.zip (s.2.exec post).1) ∧
    (issued (Session.empty.exec pre).1).Pairwise (·.generation < ·.generation) ∧
    (∀ (s : Session) (t t' : RunToken),
      s.isCurrent t = true → s.isCurrent t' = true → t.key = t'.key → t = t') ∧
    (∀ t : RunToken, (pre.zip (Session.empty.exec pre).1).count (.finishRun t, .flag true) ≤ 1) ∧
    (∀ t : RunToken, ((Session.empty.exec pre).2.finishRun t).1 = true →
      ((issued (Session.empty.exec pre).1).filter (·.key = t.key)).getLast? = some t) ∧
    (∀ (s : Session) (t : RunToken), (s.finishRun t).1 = false → (s.finishRun t).2 = s) ∧
    (Session.empty.exec pre).2.inFlightCount =
      (((issued (Session.empty.exec pre).1).filter
        ((Session.empty.exec pre).2.isCurrent ·)).map (·.key)).dedup.length := by
  have h := tracks_exec pre
  refine ⟨fun post => isCurrent_exec_beginRun _ k post, h.increasing,
    fun _ _ _ => eq_of_isCurrent, fun t => ?_, fun t hf => ?_, fun s t hf => ?_,
    h.inFlightCount_eq⟩
  · simpa using tracks_empty.count_finish_le t pre
  · exact h.newest_of_isCurrent (finishRun_fst _ t ▸ hf)
  · rw [finishRun_of_not_isCurrent (finishRun_fst s t ▸ hf)]

end Session

end LintBridge
