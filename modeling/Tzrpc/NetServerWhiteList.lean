import Mathlib.Data.List.DropRight
import Tzrpc.NetServerAdmission

/-!
# The white list

What a `safe_ip` setting says, without a parser, and which setting decides over an accept
after any number of updates. An update that is accepted puts its own list in force, also
when it has none, and an empty list lets every address in.
-/
namespace Tzrpc

namespace NetConf

def Trimmed (s : Bytes) : Prop :=
  ∀ b, s.head? = some b ∨ s.getLast? = some b → isSpace b = false

/-- The address is one of the parts between the semicolons, up to the blanks around it. -/
def Lists (ipList ip : Bytes) : Prop :=
  ip ≠ [] ∧ Trimmed ip ∧ ∃ parts left right, ipList = [0x3b].intercalate parts ∧
    (∀ part ∈ parts, 0x3b ∉ part) ∧ left ++ ip ++ right ∈ parts ∧
      ∀ b ∈ left ++ right, isSpace b = true

def Admits (ipList ip : Bytes) : Prop := (∀ other, ¬ Lists ipList other) ∨ Lists ipList ip

lemma splitIps_eq (s : Bytes) : splitIps s = s.splitOn 0x3b := by
  induction s with
  | nil => rfl
  | cons b bs ih =>
    rw [splitIps, List.splitOn_cons_eq_if_modifyHead, ← ih]
    simp only [beq_iff_eq]
    split_ifs
    · rfl
    · cases hsplit : splitIps bs with
      | nil => exact absurd (ih.symm.trans hsplit) (List.splitOn_ne_nil _ _)
      | cons part parts => rfl

lemma splitIps_parts (s : Bytes) : ∀ part ∈ splitIps s, 0x3b ∉ part := by
  induction s with
  | nil => simp [splitIps]
  | cons b bs ih =>
    rw [splitIps]
    split_ifs with hb
    · exact List.forall_mem_cons.mpr ⟨List.not_mem_nil, ih⟩
    · cases hsplit : splitIps bs with
      | nil => simpa using Ne.symm hb
      | cons part parts =>
        rw [hsplit] at ih
        obtain ⟨hpart, hparts⟩ := List.forall_mem_cons.mp ih
        exact List.forall_mem_cons.mpr ⟨by simp [Ne.symm hb, hpart], hparts⟩

lemma mem_splitIps {s part : Bytes} : part ∈ splitIps s ↔
    ∃ parts, s = [0x3b].intercalate parts ∧ (∀ p ∈ parts, 0x3b ∉ p) ∧ part ∈ parts := by
  constructor
  · intro h
    refine ⟨splitIps s, ?_, splitIps_parts s, h⟩
    rw [splitIps_eq, List.intercalate_splitOn]
  · rintro ⟨parts, rfl, hparts, h⟩
    rwa [splitIps_eq, List.splitOn_intercalate _ hparts (List.ne_nil_of_mem h)]

lemma dropWhile_blanks {left s : Bytes} (hleft : ∀ b ∈ left, isSpace b = true)
    (hhead : ∀ b, s.head? = some b → isSpace b = false) :
    (left ++ s).dropWhile isSpace = s := by
  rw [List.dropWhile_append_of_pos hleft]
  cases s with
  | nil => rfl
  | cons b s => rw [List.dropWhile_cons_of_neg (by simp [hhead b rfl])]

lemma trimCopy_eq_iff {part ip : Bytes} (h : ip ≠ []) : trimCopy part = ip ↔
    Trimmed ip ∧ ∃ left right, part = left ++ ip ++ right ∧
      ∀ b ∈ left ++ right, isSpace b = true := by
  constructor
  · rintro rfl
    have hrest : part.dropWhile isSpace =
        trimCopy part ++ (part.dropWhile isSpace).rtakeWhile isSpace :=
      List.rdropWhile_append_rtakeWhile.symm
    refine ⟨fun b hb => ?_, part.takeWhile isSpace, (part.dropWhile isSpace).rtakeWhile isSpace,
      ?_, fun b hb => ?_⟩
    · rcases hb with hb | hb
      · have hnot := List.head?_dropWhile_not isSpace part
        rwa [hrest, List.head?_append_of_ne_nil _ h, hb] at hnot
      · have hnot := List.rdropWhile_last_not isSpace (part.dropWhile isSpace) h
        rw [List.getLast?_eq_some_getLast h, Option.some.injEq] at hb
        rw [Bool.not_eq_true] at hnot
        exact hb ▸ hnot
    · rw [List.append_assoc, ← hrest, List.takeWhile_append_dropWhile]
    · rcases List.mem_append.mp hb with hb | hb
      · exact List.mem_takeWhile_imp hb
      · exact List.mem_rtakeWhile_imp hb
  · rintro ⟨htrim, left, right, rfl, hblank⟩
    have hleft : ∀ b ∈ left, isSpace b = true := fun b hb => hblank b (by simp [hb])
    have hright : ∀ b ∈ right.reverse, isSpace b = true := fun b hb =>
      hblank b (by simpa using Or.inr hb)
    rw [trimCopy, List.append_assoc, dropWhile_blanks hleft, List.reverse_append,
      dropWhile_blanks hright, List.reverse_reverse]
    · intro b hb
      exact htrim b (Or.inr (by rwa [List.head?_reverse] at hb))
    · intro b hb
      rw [List.head?_append_of_ne_nil _ h] at hb
      exact htrim b (Or.inl hb)

theorem mem_parseSafeIp {ipList ip : Bytes} : ip ∈ parseSafeIp ipList ↔ Lists ipList ip := by
  simp only [parseSafeIp, List.mem_toFinset, List.mem_filter, List.mem_map, decide_eq_true_eq]
  constructor
  · rintro ⟨⟨part, hpart, heq⟩, hne⟩
    obtain ⟨htrim, left, right, rfl, hblank⟩ := (trimCopy_eq_iff hne).mp heq
    obtain ⟨parts, hlist, hparts, hmem⟩ := mem_splitIps.mp hpart
    exact ⟨hne, htrim, parts, left, right, hlist, hparts, hmem, hblank⟩
  · rintro ⟨hne, htrim, parts, left, right, hlist, hparts, hmem, hblank⟩
    exact ⟨⟨left ++ ip ++ right, mem_splitIps.mpr ⟨parts, hlist, hparts, hmem⟩,
      (trimCopy_eq_iff hne).mpr ⟨htrim, left, right, rfl, hblank⟩⟩, hne⟩

lemma checkSafeIp_iff {c : NetConf} {ipList ip : Bytes} (h : c.safeIp = parseSafeIp ipList) :
    c.checkSafeIp ip = true ↔ Admits ipList ip := by
  rw [checkSafeIp, Bool.or_eq_true, decide_eq_true_eq, decide_eq_true_eq, h, mem_parseSafeIp,
    Finset.eq_empty_iff_forall_notMem, Admits]
  simp only [mem_parseSafeIp]

lemma loadConf_safeIp {doc : NetworkDoc} (h : (fresh.loadConf doc).1 = true) :
    (fresh.loadConf doc).2.safeIp = parseSafeIp (doc.safeIp.getD []) := by
  revert h
  unfold loadConf
  extract_lets c1 ips c2 c3 c4 c5 c6 c7 c8 c9
  have hlist : c2.safeIp = parseSafeIp ips := by
    by_cases h0 : ips = []
    · simp only [c2, h0, ne_eq, not_true_eq_false, if_false]
      rfl
    · simp only [c2, ne_eq, h0, not_false_eq_true, if_true]
  iterate 8
    apply loaded_of_check (P := fun d => d.safeIp = parseSafeIp ips)
    intro _
  intro _
  exact hlist

end NetConf

namespace NetServer

/-- The document in force: the last update that passed the checks, or the one at start-up. -/
def inForce (doc : NetworkDoc) (es : List Event) : NetworkDoc :=
  es.foldl (fun d e => match e with
    | .moduleRuntime d' => if (NetConf.fresh.loadConf d').1 then d' else d
    | _ => d) doc

def HasList (doc : NetworkDoc) (s : NetServer) : Prop :=
  s.conf.safeIp = NetConf.parseSafeIp (doc.safeIp.getD [])

variable {doc : NetworkDoc} {s t : NetServer}

lemma init_hasList (h : (init doc).1 = true) : HasList doc (init doc).2 := by
  unfold init at h ⊢
  dsimp only at h ⊢
  split_ifs at h ⊢ with hload hspeed
  · exact NetConf.loadConf_safeIp (by simpa using hload)
  · exact NetConf.loadConf_safeIp (by simpa using hload)

lemma HasList.step {e : Event} (h : HasList doc s) (hs : s.step e = some t) :
    HasList (inForce doc [e]) t := by
  cases e with
  | accept remote =>
    obtain rfl := Option.some.inj hs
    refine Eq.trans ?_ h
    cases remote with
    | none => rfl
    | some ip =>
      simp only [acceptHandler, NetConf.getServiceToken]
      split_ifs <;> rfl
  | release =>
    simp only [NetServer.step] at hs
    split_ifs at hs
    obtain rfl := Option.some.inj hs
    exact h
  | moduleRuntime d =>
    obtain rfl := Option.some.inj hs
    simp only [inForce, List.foldl_cons, List.foldl_nil, moduleRuntime, HasList]
    cases hload : (NetConf.fresh.loadConf d).1 with
    | false => exact h
    | true =>
      refine Eq.trans ?_ (NetConf.loadConf_safeIp hload)
      simp only [Bool.not_true, Bool.false_eq_true, if_false]
      split_ifs <;> rfl
  | feedExpire =>
    simp only [NetServer.step] at hs
    split_ifs at hs
    obtain rfl := Option.some.inj hs
    exact h
  | feedHandler i =>
    obtain ⟨w, -, rfl⟩ := Option.map_eq_some_iff.mp hs
    refine Eq.trans ?_ h
    simp only [feedHandler, NetConf.timedFeedTokenHandler]
    split_ifs <;> rfl

/-- After any run an address is let in by the document in force, whatever was in force before;
one that is not let in costs no token and no connection. -/
theorem admits_iff {es : List Event} (hinit : (init doc).1 = true)
    (hrun : (machine doc).run es = some s) (ip : Bytes) :
    (s.conf.checkSafeIp ip = true ↔
        NetConf.Admits ((inForce doc es).safeIp.getD []) ip) ∧
      (¬ NetConf.Admits ((inForce doc es).safeIp.getD []) ip →
        s.acceptHandler (some ip) = s) := by
  have hlist : HasList (inForce doc es) s := Machine.run_induction (M := machine doc)
    (C := fun _ _ => True) (P := fun es s => HasList (inForce doc es) s) (init_hasList hinit)
    (fun es s e t _ ih _ hn => by
      have hnext := ih.step hn
      rwa [inForce, List.foldl_append])
    hrun fun _ _ _ _ => trivial
  have hiff : s.conf.checkSafeIp ip = true ↔
      NetConf.Admits ((inForce doc es).safeIp.getD []) ip := NetConf.checkSafeIp_iff hlist
  refine ⟨hiff, fun hnot => ?_⟩
  rw [← hiff, Bool.not_eq_true] at hnot
  simp [acceptHandler, hnot]

/-- A list of two addresses, with an empty part between them and blanks around one. -/
def listDoc : NetworkDoc :=
  { speedDoc 0 with safeIp := some [0x20, 0x31, 0x09, 0x3b, 0x3b, 0x32] }

/-- An update that is refused for its speed leaves the list in force. -/
theorem listDoc_admits : ∃ s, (machine listDoc).run
    [.moduleRuntime { speedDoc (-1) with safeIp := some [0x33] }] = some s ∧
      s.conf.checkSafeIp [0x31] = true ∧ s.acceptHandler (some [0x33]) = s := by
  have hrun : ((machine listDoc).run
      [.moduleRuntime { speedDoc (-1) with safeIp := some [0x33] }]).any (fun s =>
        s.conf.checkSafeIp [0x31] && !s.conf.checkSafeIp [0x33]) := by
    decide +kernel
  obtain ⟨s, hs, hcheck⟩ := (Option.any_eq_true _ _).mp hrun
  obtain ⟨hin, hout⟩ := Bool.and_eq_true_iff.mp hcheck
  obtain ⟨hiff, hsame⟩ := admits_iff (by decide +kernel) hs [0x33]
  refine ⟨s, hs, hin, hsame fun hadmits => ?_⟩
  rw [hiff.mpr hadmits] at hout
  cases hout

end NetServer

end Tzrpc
