/-
  Lineup.Proofs.Extraction.Groups
  ───────────────────────────────
  **GROUPS ARE READ BACK WORD BY WORD.**  A group is written with its tags in a
  row and read by words, so it comes back if every tag is one word (`Token`).
  Wherever a session had to name a group, its tags were words.  Only an `FID`
  group that no session asked for can name others, and then it is refused.

  Main results:
    * `Group.ofAttributes_written` — what is read of written groups;
    * `Channel.checkFid_written_iff` — when a written `FID` group is accepted;
    * `Channel.checkGroups_written_iff` — when all written groups are.
-/
import Lineup.Extraction.Channel
import Lineup.Proofs.Except
import Lineup.Proofs.Session.Written
import Lineup.Proofs.Extraction.Attributes

namespace Lineup

open Text

/-! ## §1. Reading groups. -/

/-- The words of a list of texts. -/
def wordsOf (mids : List String) : List String :=
  mids.flatMap fun m => (words isWhite m.toList).map String.ofList

theorem token_of_mem_wordsOf {mids : List String} {w : String} (h : w ∈ wordsOf mids) :
    Token w := by
  unfold wordsOf at h
  simp only [List.mem_flatMap, List.mem_map] at h
  obtain ⟨m, -, cs, hcs, rfl⟩ := h
  unfold Token
  rw [String.toList_ofList]
  exact isWord_of_mem_words hcs

/-- Words are their own words. -/
theorem wordsOf_eq_self {mids : List String} (h : ∀ m ∈ mids, Token m) : wordsOf mids = mids := by
  induction mids with
  | nil => rfl
  | cons m mids ih =>
    obtain ⟨hm, hrest⟩ := List.forall_mem_cons.1 h
    have hword : words isWhite m.toList = [m.toList] := words_eq_singleton hm.1 hm.2
    unfold wordsOf at ih ⊢
    rw [List.flatMap_cons, hword, ih hrest, List.map_singleton, String.ofList_toList]
    rfl

/-- Texts that have the same words in another order as they are themselves are words. -/
theorem perm_wordsOf_iff {mids : List String} :
    (wordsOf mids).Perm mids ↔ ∀ m ∈ mids, Token m := by
  constructor
  · intro h m hm
    exact token_of_mem_wordsOf (h.mem_iff.2 hm)
  · intro h
    rw [wordsOf_eq_self h]

namespace Group

/-- A group as it is read back. -/
def reread (g : Group) : Group := { g with mids := wordsOf g.mids }

theorem ofValue?_toValue {g : Group} (h : Token g.semantics) :
    ofValue? (trimmed g.toValue) = some g.reread := by
  -- the tags may be empty or hold white space, the semantics not
  have hwords : (words isWhite (trim g.toValue.toList)).map String.ofList
      = g.semantics :: wordsOf g.mids := by
    have hsemantics : words isWhite g.semantics.toList = [g.semantics.toList] :=
      words_eq_singleton h.1 h.2
    unfold toValue
    rw [words_trim, String.toList_intercalate]
    show (words isWhite ([' '].intercalate _)).map String.ofList = _
    rw [words_intercalate (by decide), List.map_cons, List.flatMap_cons, hsemantics,
      List.map_append, List.map_singleton, String.ofList_toList, List.flatMap_map,
      List.map_flatMap]
    rfl
  unfold ofValue? trimmed
  rw [String.toList_ofList, hwords]
  rfl

theorem tokens_of_ofValue? {value : String} {g : Group} (h : ofValue? value = some g) :
    ∀ m ∈ g.mids, Token m := by
  unfold ofValue? at h
  split at h
  · cases h
  · next semantics mids heq =>
    obtain rfl := Option.some.inj h
    intro m hm
    have hmem : m ∈ (words isWhite value.toList).map String.ofList := by
      rw [heq]
      exact List.mem_cons_of_mem _ hm
    obtain ⟨w, hw, rfl⟩ := List.mem_map.1 hmem
    unfold Token
    rw [String.toList_ofList]
    exact isWord_of_mem_words hw

/-- Groups that were read name words. -/
theorem tokens_of_mem_ofAttributes {as : List Attribute} {g : Group} (h : g ∈ ofAttributes as) :
    ∀ m ∈ g.mids, Token m := by
  obtain ⟨value, -, hg⟩ := List.mem_filterMap.1 h
  exact tokens_of_ofValue? hg

theorem ofAttributes_cons (value : String) (as : List Attribute) :
    ofAttributes (.valued "group" value :: as) = (ofValue? value).toList ++ ofAttributes as := by
  unfold ofAttributes Attribute.valuesOf Attribute.valued
  rw [List.filter_cons_of_pos (by simp)]
  dsimp only [List.filterMap_cons]
  cases ofValue? value with
  | _ => rfl

/-- Written groups are read back word by word, behind attributes of other names. -/
theorem ofAttributes_written {as : List Attribute} {groups : List Group}
    (has : ∀ a ∈ as, a.name ≠ "group") (h : ∀ g ∈ groups, Token g.semantics) :
    ofAttributes ((as ++ groups.map toAttribute).map Attribute.tidy) = groups.map reread := by
  -- first past the attributes in front, then group by group
  induction as with
  | nil =>
    induction groups with
    | nil => rfl
    | cons g groups ih =>
      obtain ⟨hg, hrest⟩ := List.forall_mem_cons.1 h
      show ofAttributes (.valued "group" (trimmed g.toValue) :: _) = _
      rw [ofAttributes_cons, ofValue?_toValue hg]
      exact congrArg (g.reread :: ·) (ih hrest)
  | cons a as ih =>
    obtain ⟨ha, hrest⟩ := List.forall_mem_cons.1 has
    rw [← ih hrest]
    unfold ofAttributes Attribute.valuesOf
    have hname : a.tidy.name ≠ "group" := ha
    rw [List.cons_append, List.map_cons, List.filter_cons_of_neg (by simpa using hname)]

end Group

/-! ## §2. What the checks of groups say. -/

theorem Group.single_eq_ok_iff {groups : List Group} {semantics : String} {g : Option Group} :
    single groups semantics = .ok g ↔ groups.filter (·.semantics == semantics) = g.toList := by
  unfold single
  split
  · next heq =>
    rw [heq]
    cases g with
    | none => simp
    | some g => simp
  · next g' heq =>
    rw [heq]
    cases g with
    | none => simp
    | some g => simp
  · next hnil hone =>
    constructor
    · intro h
      cases h
    · intro h
      cases g with
      | none => exact absurd h hnil
      | some g => exact absurd h (hone g)

namespace Channel

variable {c : Channel}

theorem midsOf_eq_ok_iff {kinds : List StreamKind} {mids : List String} :
    c.midsOf kinds = .ok mids
      ↔ kinds.mapM (fun kind => (c.endpoint? kind).bind (·.mid)) = some mids := by
  -- both stop at the first stream without a tag
  induction kinds generalizing mids with
  | nil =>
    unfold midsOf
    rw [List.mapM_nil]
    simp
  | cons kind kinds ih =>
    unfold midsOf
    rw [List.mapM_cons]
    cases (c.endpoint? kind).bind (·.mid) with
    | none => simp
    | some mid =>
      dsimp only
      rw [bind_eq_ok_iff]
      simp only [Option.bind_eq_bind, Option.bind_some, Option.bind_eq_some_iff, ih]
      refine exists_congr fun rest => and_congr_right fun _ => ?_
      show Except.ok (mid :: rest) = Except.ok mids ↔ some (mid :: rest) = some mids
      rw [Except.ok.injEq, Option.some.injEq]

theorem groupOf_eq_some_iff {semantics : String} {kinds : List StreamKind} {g : Group} :
    c.groupOf semantics kinds = some g ↔ g.semantics = semantics ∧ c.midsOf kinds = .ok g.mids := by
  unfold groupOf
  rw [midsOf_eq_ok_iff, Option.bind_eq_bind, Option.bind_eq_some_iff]
  constructor
  · rintro ⟨mids, hmids, hg⟩
    obtain rfl := Option.some.inj hg
    exact ⟨rfl, hmids⟩
  · rintro ⟨rfl, hmids⟩
    exact ⟨g.mids, hmids, rfl⟩

theorem checkMembers_eq_ok_iff {g : Group} {kinds : List StreamKind} :
    c.checkMembers g kinds = .ok () ↔ ∃ mids, c.midsOf kinds = .ok mids ∧ g.mids.Perm mids := by
  unfold checkMembers
  rw [bind_eq_ok_iff]
  refine exists_congr fun mids => and_congr_right fun _ => ?_
  rw [← List.isPerm_iff]
  split
  · next h => simp [h]
  · next h => simp [h]

theorem checkGroups_eq_ok_iff {groups : List Group} :
    c.checkGroups groups = .ok () ↔ c.checkMids = .ok () ∧ ∃ fid fec : Option Group,
      groups.filter (·.semantics == "FID") = fid.toList
      ∧ groups.filter (·.semantics == "FEC") = fec.toList
      ∧ c.checkFid fid = .ok () ∧ c.checkFec fec = .ok () := by
  unfold checkGroups
  rw [check_bind_eq_ok_iff]
  refine and_congr_right fun _ => ?_
  rw [bind_eq_ok_iff]
  refine exists_congr fun fid => ?_
  rw [Group.single_eq_ok_iff, bind_eq_ok_iff, ← exists_and_left]
  refine exists_congr fun fec => and_congr_right fun _ => ?_
  rw [Group.single_eq_ok_iff, check_bind_eq_ok_iff]

/-! ## §3. Written groups. -/

/-- The `FID` group that a channel is written with. -/
def fidGroup (c : Channel) : Option Group :=
  if c.rtx.isSome then c.groupOf "FID" (fidMembers c.mode) else none

/-- The `FEC` group that a channel is written with. -/
def fecGroup (c : Channel) : Option Group :=
  if c.fec1.isSome then c.groupOf "FEC" c.fecMembers else none

theorem groups_eq (c : Channel) : c.groups = c.fidGroup.toList ++ c.fecGroup.toList := by
  unfold groups fidGroup fecGroup
  -- either group may be missing
  cases c.rtx with
  | _ => cases c.fec1 with
    | _ => rfl

theorem semantics_of_fidGroup {g : Group} (h : c.fidGroup = some g) : g.semantics = "FID" := by
  unfold fidGroup at h
  split at h
  · exact (groupOf_eq_some_iff.1 h).1
  · cases h

theorem semantics_of_fecGroup {g : Group} (h : c.fecGroup = some g) : g.semantics = "FEC" := by
  unfold fecGroup at h
  split at h
  · exact (groupOf_eq_some_iff.1 h).1
  · cases h

theorem token_semantics {g : Group} (h : g ∈ c.groups) : Token g.semantics := by
  rw [groups_eq] at h
  rcases List.mem_append.1 h with h | h
  · rw [semantics_of_fidGroup (Option.mem_toList.1 h)]
    exact ⟨by decide, by decide⟩
  · rw [semantics_of_fecGroup (Option.mem_toList.1 h)]
    exact ⟨by decide, by decide⟩

theorem filter_reread {o : Option Group} {semantics : String}
    (h : ∀ g, o = some g → g.semantics = semantics) (name : String) :
    (o.toList.map Group.reread).filter (·.semantics == name)
      = if semantics = name then (o.map Group.reread).toList else [] := by
  cases o with
  | none => simp
  | some g =>
    have hg : g.reread.semantics = semantics := h g rfl
    by_cases hname : semantics = name
    · simp [hg, hname]
    · simp [hg, hname]

theorem filter_fid_written (c : Channel) :
    (c.groups.map Group.reread).filter (·.semantics == "FID")
      = (c.fidGroup.map Group.reread).toList := by
  rw [groups_eq, List.map_append, List.filter_append,
    filter_reread fun _ => semantics_of_fidGroup, filter_reread fun _ => semantics_of_fecGroup,
    if_pos rfl, if_neg (by decide), List.append_nil]

theorem filter_fec_written (c : Channel) :
    (c.groups.map Group.reread).filter (·.semantics == "FEC")
      = (c.fecGroup.map Group.reread).toList := by
  rw [groups_eq, List.map_append, List.filter_append,
    filter_reread fun _ => semantics_of_fidGroup, filter_reread fun _ => semantics_of_fecGroup,
    if_neg (by decide), if_pos rfl, List.nil_append]

/-! ## §4. When written groups are accepted. -/

/-- A channel that is written with an `FID` group no session asks for, and whose tags
cannot stand in a group: one of them is empty or holds white space. -/
def Exempt (c : Channel) : Prop :=
  (c.mode = .distribution ∨ c.mode = .receiveOnly) ∧
    ∃ r p q, c.rtx = some r ∧ c.primary.endpoint.mid = some p ∧ r.endpoint.mid = some q
      ∧ ¬(Token p ∧ Token q)

/-- A written group is accepted exactly if its tags are words. -/
theorem checkMembers_reread_iff {g : Group} {kinds : List StreamKind}
    (h : c.midsOf kinds = .ok g.mids) :
    c.checkMembers g.reread kinds = .ok () ↔ ∀ m ∈ g.mids, Token m := by
  rw [checkMembers_eq_ok_iff, ← perm_wordsOf_iff]
  constructor
  · rintro ⟨mids, hmids, hperm⟩
    obtain rfl := Except.ok.inj (h.symm.trans hmids)
    exact hperm
  · intro hperm
    exact ⟨g.mids, h, hperm⟩

/-- The tags of a group that was accepted are words if those of the group are. -/
theorem tokens_of_checkMembers {g : Group} {kinds : List StreamKind} {mids : List String}
    (h : c.checkMembers g kinds = .ok ()) (hg : ∀ m ∈ g.mids, Token m)
    (hmids : c.midsOf kinds = .ok mids) : ∀ m ∈ mids, Token m := by
  obtain ⟨mids', hmids', hperm⟩ := checkMembers_eq_ok_iff.1 h
  obtain rfl := Except.ok.inj (hmids'.symm.trans hmids)
  intro m hm
  exact hg m (hperm.mem_iff.2 hm)

theorem midsOf_repaired_iff {mids : List String} :
    c.midsOf [.primary, .retransmission] = .ok mids ↔
      ∃ r p q, c.rtx = some r ∧ c.primary.endpoint.mid = some p ∧ r.endpoint.mid = some q
        ∧ mids = [p, q] := by
  rw [midsOf_eq_ok_iff]
  simp only [List.mapM_cons, List.mapM_nil, Option.bind_eq_bind, Option.bind_eq_some_iff]
  constructor
  · rintro ⟨p, ⟨_, ⟨⟩, hp⟩, rest, ⟨q, ⟨e, he, hq⟩, _, ⟨⟩, ⟨⟩⟩, ⟨⟩⟩
    obtain ⟨r, hr, rfl⟩ := Option.map_eq_some_iff.1 he
    exact ⟨r, p, q, hr, hp, hq, rfl⟩
  · rintro ⟨r, p, q, hr, hp, hq, rfl⟩
    refine ⟨p, ⟨_, rfl, hp⟩, [q], ⟨q, ⟨r.endpoint, ?_, hq⟩, [], rfl, rfl⟩, rfl⟩
    exact Option.map_eq_some_iff.2 ⟨r, hr, rfl⟩

theorem exempt_iff :
    c.Exempt ↔ (c.mode = .distribution ∨ c.mode = .receiveOnly)
      ∧ ∃ mids, c.midsOf (fidMembers c.mode) = .ok mids ∧ ¬∀ m ∈ mids, Token m := by
  refine and_congr_right fun hmodes => ?_
  have hmembers : fidMembers c.mode = [.primary, .retransmission] := by
    rcases hmodes with hm | hm
    · rw [hm]
      rfl
    · rw [hm]
      rfl
  simp only [hmembers, midsOf_repaired_iff]
  constructor
  · rintro ⟨r, p, q, hr, hp, hq, hno⟩
    refine ⟨[p, q], ⟨r, p, q, hr, hp, hq, rfl⟩, fun htokens => ?_⟩
    exact hno ⟨htokens p (by simp), htokens q (by simp)⟩
  · rintro ⟨mids, ⟨r, p, q, hr, hp, hq, rfl⟩, hno⟩
    refine ⟨r, p, q, hr, hp, hq, fun htokens => hno ?_⟩
    simp only [List.forall_mem_cons]
    exact ⟨htokens.1, htokens.2, by simp⟩

/-- Without a group, what matters is the mode. -/
theorem checkFid_none_iff {r : RtxStream} (hrtx : c.rtx = some r) :
    c.checkFid none = .ok () ↔ ¬(c.mode = .source ∨ c.mode = .lookaside) := by
  unfold checkFid
  rw [hrtx]
  dsimp only
  split
  · next hyes => simp [hyes]
  · next hno => simp [hno]

/-- **A written `FID` group is accepted** where another, or none, was accepted before,
unless its tags cannot stand in a group. -/
theorem checkFid_written_iff {fid : Option Group} (hmode : c.mode ≠ .unspecified)
    (h : c.checkFid fid = .ok ()) (hfid : ∀ g, fid = some g → ∀ m ∈ g.mids, Token m) :
    c.checkFid (c.fidGroup.map Group.reread) = .ok () ↔ ¬c.Exempt := by
  -- without a stream for repair no group is written
  cases hrtx : c.rtx with
  | none =>
    have hnone : c.fidGroup = none := by
      unfold fidGroup
      rw [hrtx]
      rfl
    rw [hnone]
    unfold checkFid Exempt
    simp [hrtx]
  | some r =>
    have hgroup : c.fidGroup = c.groupOf "FID" (fidMembers c.mode) := by
      unfold fidGroup
      rw [hrtx]
      rfl
    have hsome : ∀ g, c.checkFid (some g) = c.checkMembers g (fidMembers c.mode) := by
      intro g
      unfold checkFid
      rw [hrtx]
    rw [hgroup, exempt_iff]
    cases hmids : c.midsOf (fidMembers c.mode) with
    | error e =>
      -- a stream has no tag, so there was no group before either
      have hnone : c.groupOf "FID" (fidMembers c.mode) = none := by
        rw [Option.eq_none_iff_forall_ne_some]
        intro g hg
        rw [(groupOf_eq_some_iff.1 hg).2] at hmids
        cases hmids
      have hold : fid = none := by
        cases fid with
        | none => rfl
        | some g =>
          rw [hsome] at h
          obtain ⟨mids, hok, -⟩ := checkMembers_eq_ok_iff.1 h
          rw [hok] at hmids
          cases hmids
      rw [hnone, Option.map_none, ← hold]
      simp [h]
    | ok mids =>
      have hg : c.groupOf "FID" (fidMembers c.mode) = some ⟨"FID", mids⟩ :=
        groupOf_eq_some_iff.2 ⟨rfl, hmids⟩
      rw [hg, Option.map_some, hsome, checkMembers_reread_iff hmids]
      constructor
      · rintro htokens ⟨-, mids', ⟨⟩, hno⟩
        exact hno htokens
      · intro hexempt
        -- a group before would have named these tags, so there was none
        by_contra htokens
        have hold : fid = none := by
          cases fid with
          | none => rfl
          | some g =>
            rw [hsome] at h
            exact absurd (tokens_of_checkMembers h (hfid g rfl) hmids) htokens
        rw [hold, checkFid_none_iff hrtx, not_or] at h
        refine hexempt ⟨?_, mids, rfl, htokens⟩
        -- the two modes that need a group would have refused the session
        cases hm : c.mode with
        | distribution => exact Or.inl rfl
        | receiveOnly => exact Or.inr rfl
        | source => exact absurd hm h.1
        | lookaside => exact absurd hm h.2
        | unspecified => exact absurd hm hmode

/-- A written `FEC` group is accepted where another, or none, was accepted before. -/
theorem checkFec_written {fec : Option Group} (horder : c.fec1 = none → c.fec2 = none)
    (h : c.checkFec fec = .ok ()) (hfec : ∀ g, fec = some g → ∀ m ∈ g.mids, Token m) :
    c.checkFec (c.fecGroup.map Group.reread) = .ok () := by
  cases hfec1 : c.fec1 with
  | none =>
    have hnone : c.fecGroup = none := by
      unfold fecGroup
      rw [hfec1]
      rfl
    have hcount : c.fecCount = 0 := by
      unfold fecCount
      rw [hfec1, horder hfec1]
      rfl
    rw [hnone]
    unfold checkFec
    rw [Option.map_none, hcount]
    rfl
  | some e =>
    have hcount : c.fecCount ≠ 0 := by
      unfold fecCount
      rw [hfec1, Option.toList_some, List.length_singleton]
      omega
    have hsome : ∀ g, c.checkFec (some g) = c.checkMembers g c.fecMembers := by
      intro g
      unfold checkFec
      dsimp only
      rw [if_neg hcount]
    -- with a `fec` stream there must be a group, so the session had one
    cases fec with
    | none =>
      unfold checkFec at h
      dsimp only at h
      rw [if_neg hcount] at h
      cases h
    | some g =>
      rw [hsome] at h
      obtain ⟨mids, hmids, -⟩ := checkMembers_eq_ok_iff.1 h
      have hgroup : c.fecGroup = some ⟨"FEC", mids⟩ := by
        unfold fecGroup
        rw [hfec1, Option.isSome_some, if_pos rfl]
        exact groupOf_eq_some_iff.2 ⟨rfl, hmids⟩
      rw [hgroup, Option.map_some, hsome, checkMembers_reread_iff hmids]
      exact tokens_of_checkMembers h (hfec g rfl) hmids

/-- **The groups that a channel is written with are accepted**, where the session it was
drawn from had groups that were, unless the tags of its `FID` group cannot stand in one. -/
theorem checkGroups_written_iff {as : List Attribute} (hmode : c.mode ≠ .unspecified)
    (horder : c.fec1 = none → c.fec2 = none)
    (h : c.checkGroups (Group.ofAttributes as) = .ok ()) :
    c.checkGroups (c.groups.map Group.reread) = .ok () ↔ ¬c.Exempt := by
  obtain ⟨hmids, fid, fec, hfid, hfec, hcheckFid, hcheckFec⟩ := checkGroups_eq_ok_iff.1 h
  -- the groups of the session were read, so they name words
  have htokens : ∀ (o : Option Group) (name : String),
      (Group.ofAttributes as).filter (·.semantics == name) = o.toList →
      ∀ g, o = some g → ∀ m ∈ g.mids, Token m := by
    intro o name ho g hg
    have hmem : g ∈ (Group.ofAttributes as).filter (·.semantics == name) := by
      rw [ho, Option.mem_toList]
      exact hg
    exact Group.tokens_of_mem_ofAttributes (List.mem_filter.1 hmem).1
  have hfidWritten := checkFid_written_iff hmode hcheckFid (htokens fid "FID" hfid)
  have hfecWritten := checkFec_written horder hcheckFec (htokens fec "FEC" hfec)
  rw [checkGroups_eq_ok_iff, ← hfidWritten]
  constructor
  · rintro ⟨-, fid', fec', hfid', -, hok, -⟩
    rw [filter_fid_written] at hfid'
    have heq : c.fidGroup.map Group.reread = fid' := by
      simpa using congrArg List.head? hfid'
    rw [heq]
    exact hok
  · intro hok
    exact ⟨hmids, _, _, c.filter_fid_written, c.filter_fec_written, hok, hfecWritten⟩

end Channel

end Lineup
