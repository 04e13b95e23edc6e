import EndpointDiscovery.Proofs.Sml.HostNames
import EndpointDiscovery.Sml.Locator

/-!
# The record that locates an SMP

Of the usable records the one that comes first by order, preference and place names
the SMP.  The records are sorted by order and preference only; since sorting is
stable, the usable records of one order and preference keep their order, and the
selection depends on these groups alone.
-/

namespace EndpointDiscovery

namespace NaptrRecord

def usable (record : NaptrRecord) : Bool :=
  record.isSmpRecord && record.targetUri?.isSome

/-! ## The order of records -/

variable {left right : NaptrRecord}

theorem before_iff : left.before right = true ↔
    left.order < right.order ∨ left.order = right.order ∧
    left.preference ≤ right.preference := by
  simp [before]

theorem before_trans (left right next : NaptrRecord) (h : left.before right = true)
    (hnext : right.before next = true) : left.before next = true := by
  simp only [before_iff, UInt16.lt_iff_toNat_lt, UInt16.le_iff_toNat_le,
    ← UInt16.toNat_inj] at *
  omega

theorem before_total (left right : NaptrRecord) :
    (left.before right || right.before left) = true := by
  simp only [Bool.or_eq_true, before_iff, UInt16.lt_iff_toNat_lt,
    UInt16.le_iff_toNat_le, ← UInt16.toNat_inj]
  omega

theorem before_antisymm (h : left.before right = true)
    (hback : right.before left = true) :
    left.order = right.order ∧ left.preference = right.preference := by
  simp only [before_iff, UInt16.lt_iff_toNat_lt, UInt16.le_iff_toNat_le,
    ← UInt16.toNat_inj] at *
  omega

theorem before_of_eq (horder : left.order = right.order)
    (hpreference : left.preference = right.preference) :
    left.before right = true := by
  rw [before_iff, horder, hpreference]
  exact .inr ⟨rfl, UInt16.le_refl _⟩

/-! ## Groups of usable records -/

def hasRank (order preference : UInt16) (record : NaptrRecord) : Bool :=
  record.order == order && record.preference == preference

def inGroup (order preference : UInt16) (record : NaptrRecord) : Bool :=
  record.usable && hasRank order preference record

def group (records : List NaptrRecord)
    (order preference : UInt16) : List NaptrRecord :=
  records.filter (inGroup order preference)

theorem inGroup_iff {order preference : UInt16} {record : NaptrRecord} :
    inGroup order preference record = true ↔
      record.usable = true ∧ record.order = order ∧
      record.preference = preference := by
  simp [inGroup, hasRank]

variable {records others : List NaptrRecord} {record : NaptrRecord}

theorem mem_group_self_iff : record ∈ group records record.order record.preference ↔
    record ∈ records ∧ record.usable = true := by
  simp [group, inGroup_iff]

theorem group_mergeSort (records : List NaptrRecord) (order preference : UInt16) :
    group (records.mergeSort before) order preference =
      group records order preference := by
  have hsorted : (group records order preference).Pairwise (before · ·) := by
    refine List.pairwise_of_forall_mem_list fun left hleft right hright => ?_
    have hleft := (inGroup_iff.mp (List.mem_filter.mp hleft).2).2
    have hright := (inGroup_iff.mp (List.mem_filter.mp hright).2).2
    exact before_of_eq (hleft.1.trans hright.1.symm) (hleft.2.trans hright.2.symm)
  have hsublist : (group records order preference).Sublist
      (records.mergeSort before) :=
    List.sublist_mergeSort before_trans before_total hsorted List.filter_sublist
  have hfiltered := hsublist.filter (inGroup order preference)
  rw [group, List.filter_filter] at hfiltered
  refine (List.Sublist.eq_of_length ?_ ?_).symm
  · simpa [group] using hfiltered
  · exact ((List.mergeSort_perm records before).filter _).length_eq.symm

/-- The first of its group, and no usable record has a lower order or preference. -/
structure IsLeast (records : List NaptrRecord) (record : NaptrRecord) : Prop where
  head : (group records record.order record.preference).head? = some record
  least : ∀ rival ∈ records, rival.usable = true → record.before rival = true

theorem IsLeast.mem (h : IsLeast records record) :
    record ∈ records ∧ record.usable = true :=
  mem_group_self_iff.mp (List.mem_of_head? h.head)

theorem IsLeast.unique {other : NaptrRecord} (h : IsLeast records record)
    (hother : IsLeast records other) : record = other := by
  obtain ⟨horder, hpreference⟩ :=
    before_antisymm (h.least other hother.mem.1 hother.mem.2)
      (hother.least record h.mem.1 h.mem.2)
  have hhead := h.head
  rw [horder, hpreference, hother.head] at hhead
  exact (Option.some.inj hhead).symm

theorem IsLeast.congr
    (hgroups : ∀ order preference,
      group records order preference = group others order preference)
    (h : IsLeast records record) :
    IsLeast others record where
  head := by rw [← hgroups, h.head]
  least rival hmem husable := by
    have hrival := mem_group_self_iff.mpr ⟨hmem, husable⟩
    rw [← hgroups, mem_group_self_iff] at hrival
    exact h.least rival hrival.1 hrival.2

theorem isLeast_of_find?
    (hfind : (records.mergeSort before).find? usable = some record) :
    IsLeast records record := by
  obtain ⟨husable, front, rest, heq, hfront⟩ :=
    List.find?_eq_some_iff_append.mp hfind
  have hunusable : ∀ other ∈ front, other.usable = false := by simpa using hfront
  have hsorted := List.pairwise_mergeSort before_trans before_total records
  rw [heq, List.pairwise_append, List.pairwise_cons] at hsorted
  constructor
  · have hnone : front.filter (inGroup record.order record.preference) = [] := by
      simp +contextual [inGroup, hunusable]
    rw [← group_mergeSort, group, heq, List.filter_append, hnone, List.nil_append,
      List.filter_cons_of_pos (inGroup_iff.mpr ⟨husable, rfl, rfl⟩),
      List.head?_cons]
  · intro rival hmem hrival
    have hmem : rival ∈ records.mergeSort before := List.mem_mergeSort.mpr hmem
    rw [heq, List.mem_append, List.mem_cons] at hmem
    rcases hmem with hmem | rfl | hmem
    · exact absurd hrival (by simp [hunusable rival hmem])
    · exact before_of_eq rfl rfl
    · exact hsorted.2.1.1 rival hmem

theorem exists_find? (hmem : record ∈ records) (husable : record.usable = true) :
    ∃ found, (records.mergeSort before).find? usable = some found :=
  Option.isSome_iff_exists.mp (List.find?_isSome.mpr
    ⟨record, List.mem_mergeSort.mpr hmem, husable⟩)

theorem find?_mergeSort_eq_some_iff :
    (records.mergeSort before).find? usable = some record ↔
      IsLeast records record := by
  refine ⟨isLeast_of_find?, fun h => ?_⟩
  obtain ⟨found, hfind⟩ := exists_find? h.mem.1 h.mem.2
  rw [hfind, (isLeast_of_find? hfind).unique h]

/-! ## The first usable record -/

def ComesFirst (record : NaptrRecord) (place : Nat) (rival : NaptrRecord)
    (other : Nat) : Prop :=
  record.order < rival.order ∨ record.order = rival.order ∧
    (record.preference < rival.preference ∨
      record.preference = rival.preference ∧ place < other)

theorem ComesFirst.before {rival : NaptrRecord} {place other : Nat}
    (h : ComesFirst record place rival other) : record.before rival = true := by
  rw [before_iff]
  rcases h with horder | ⟨horder, hpreference | ⟨hpreference, -⟩⟩
  · exact .inl horder
  · exact .inr ⟨horder, UInt16.le_of_lt hpreference⟩
  · exact .inr ⟨horder, hpreference ▸ UInt16.le_refl _⟩

theorem comesFirst_of_before {rival : NaptrRecord} {place other : Nat}
    (h : record.before rival = true) (hplace : record.order = rival.order →
      record.preference = rival.preference → place < other) :
    ComesFirst record place rival other := by
  rcases before_iff.mp h with horder | ⟨horder, hpreference⟩
  · exact .inl horder
  · refine .inr ⟨horder, ?_⟩
    rcases UInt16.lt_or_eq_of_le hpreference with hless | hsame
    · exact .inl hless
    · exact .inr ⟨hsame, hplace horder hsame⟩

/-- The record at a place is usable and comes before all other usable records. -/
structure IsFirstUsable (records : List NaptrRecord) (place : Nat)
    (record : NaptrRecord) :
    Prop where
  placed : records[place]? = some record
  usable : record.usable = true
  first : ∀ other rival, records[other]? = some rival → rival.usable = true →
    other ≠ place → ComesFirst record place rival other

theorem head?_group_eq_some_iff {order preference : UInt16} :
    (group records order preference).head? = some record ↔
      inGroup order preference record = true ∧ ∃ place : Nat,
        records[place]? = some record ∧
        ∀ (other : Nat) (rival : NaptrRecord), records[other]? = some rival →
          inGroup order preference rival = true → place ≤ other := by
  rw [group, List.head?_filter, List.find?_eq_some_iff_getElem]
  refine and_congr_right fun _ => exists_congr fun place => ?_
  constructor
  · rintro ⟨hplace, hplaced, hearlier⟩
    refine ⟨by rw [List.getElem?_eq_getElem hplace, hplaced],
      fun other rival hrival hgroup => ?_⟩
    by_contra hless
    obtain ⟨hother, rfl⟩ := List.getElem?_eq_some_iff.mp hrival
    simpa [hgroup] using hearlier other (by omega)
  · rintro ⟨hplaced, hearlier⟩
    obtain ⟨hplace, hplaced⟩ := List.getElem?_eq_some_iff.mp hplaced
    refine ⟨hplace, hplaced, fun other hless => ?_⟩
    rw [Bool.not_eq_true', Bool.eq_false_iff]
    intro hgroup
    exact Nat.not_le_of_lt hless
      (hearlier other _ (List.getElem?_eq_getElem _) hgroup)

theorem isLeast_iff : IsLeast records record ↔ ∃ place,
    IsFirstUsable records place record := by
  constructor
  · intro h
    obtain ⟨-, place, hplaced, hearlier⟩ := head?_group_eq_some_iff.mp h.head
    refine ⟨place, hplaced, h.mem.2, fun other rival hrival husable hne => ?_⟩
    refine comesFirst_of_before
      (h.least rival (List.mem_of_getElem? hrival) husable) ?_
    intro horder hpreference
    have hle := hearlier other rival hrival
      (inGroup_iff.mpr ⟨husable, horder.symm, hpreference.symm⟩)
    omega
  · rintro ⟨place, h⟩
    constructor
    · refine head?_group_eq_some_iff.mpr
        ⟨inGroup_iff.mpr ⟨h.usable, rfl, rfl⟩, place, h.placed, ?_⟩
      intro other rival hrival hgroup
      by_contra hless
      obtain ⟨husable, horder, hpreference⟩ := inGroup_iff.mp hgroup
      have hfirst := h.first other rival hrival husable (by omega)
      simp only [ComesFirst, horder, hpreference, UInt16.lt_irrefl, false_or,
        true_and] at hfirst
      omega
    · intro rival hmem husable
      obtain ⟨other, hother⟩ := List.mem_iff_getElem?.mp hmem
      by_cases hsame : other = place
      · rw [hsame, h.placed, Option.some.injEq] at hother
        rw [hother]
        exact before_of_eq rfl rfl
      · exact (h.first other rival hother husable hsame).before

end NaptrRecord

/-! ## Selection -/

section Selection

open NaptrRecord

variable {records others : List NaptrRecord} {record : NaptrRecord} {uri : String}

theorem findSome?_targetUri? (h : ∀ record ∈ records, record.isSmpRecord = true) :
    records.findSome? (·.targetUri?) =
      (records.find? usable).bind (·.targetUri?) := by
  induction records with
  | nil => rfl
  | cons record records ih =>
      obtain ⟨hsmp, hrest⟩ := List.forall_mem_cons.mp h
      cases htarget : record.targetUri? with
      | none => simp [usable, htarget, ih hrest]
      | some uri => simp [usable, htarget, hsmp]

theorem selectSmpUri?_eq (records : List NaptrRecord) : selectSmpUri? records =
    (((records.filter (·.isSmpRecord)).mergeSort before).find? usable).bind
      (·.targetUri?) := by
  refine findSome?_targetUri? fun record hmem => ?_
  exact (List.mem_filter.mp (List.mem_mergeSort.mp hmem)).2

theorem group_filter_isSmpRecord (records : List NaptrRecord)
    (order preference : UInt16) :
    group (records.filter (·.isSmpRecord)) order preference =
      group records order preference := by
  rw [group, group, List.filter_filter]
  refine List.filter_congr fun record _ => ?_
  cases hsmp : record.isSmpRecord <;> simp [inGroup, usable, hsmp]

theorem isLeast_filter_isSmpRecord :
    IsLeast (records.filter (·.isSmpRecord)) record ↔ IsLeast records record :=
  ⟨.congr (group_filter_isSmpRecord records),
    .congr fun order preference =>
      (group_filter_isSmpRecord records order preference).symm⟩

theorem selectSmpUri?_eq_some_iff : selectSmpUri? records = some uri ↔
    ∃ record, IsLeast records record ∧ record.targetUri? = some uri := by
  simp only [selectSmpUri?_eq, Option.bind_eq_some_iff, find?_mergeSort_eq_some_iff,
    isLeast_filter_isSmpRecord]

theorem exists_targetUri?_of_usable (h : record.usable = true) :
    ∃ uri, record.targetUri? = some uri := by
  rw [usable, Bool.and_eq_true] at h
  exact Option.isSome_iff_exists.mp h.2

theorem selectSmpUri?_eq_none_iff : selectSmpUri? records = none ↔
    ∀ record ∈ records, record.usable = false := by
  constructor
  · intro h record hmem
    by_contra husable
    obtain ⟨found, hfind⟩ := exists_find? hmem (by simpa using husable)
    have hleast := isLeast_of_find? hfind
    obtain ⟨uri, huri⟩ := exists_targetUri?_of_usable hleast.mem.2
    rw [selectSmpUri?_eq_some_iff.mpr ⟨found, hleast, huri⟩] at h
    cases h
  · intro h
    rw [Option.eq_none_iff_forall_ne_some]
    intro uri hsome
    obtain ⟨record, hleast, -⟩ := selectSmpUri?_eq_some_iff.mp hsome
    have husable := hleast.mem.2
    rw [h record hleast.mem.1] at husable
    cases husable

theorem selectSmpUri?_congr (hgroups : ∀ order preference,
    group records order preference = group others order preference) :
    selectSmpUri? records = selectSmpUri? others := by
  refine Option.ext fun uri => ?_
  rw [selectSmpUri?_eq_some_iff, selectSmpUri?_eq_some_iff]
  refine exists_congr fun record => and_congr_left fun _ =>
    ⟨.congr hgroups, .congr ?_⟩
  exact fun order preference => (hgroups order preference).symm

theorem selectSmpUri?_eq_of_usable
    (h : records.filter usable = others.filter usable) :
    selectSmpUri? records = selectSmpUri? others := by
  refine selectSmpUri?_congr fun order preference => ?_
  have hgroup : ∀ records : List NaptrRecord, group records order preference =
      (records.filter usable).filter (hasRank order preference) := by
    intro records
    rw [List.filter_filter]
    exact List.filter_congr fun record _ => Bool.and_comm _ _
  rw [hgroup, hgroup, h]

/-- Another order of the same records, in which those of equal order and preference
stay in theirs. -/
structure Rearranged (records others : List NaptrRecord) : Prop where
  perm : records.Perm others
  settled : ∀ order preference,
    records.filter (hasRank order preference) =
      others.filter (hasRank order preference)

theorem Rearranged.selectSmpUri?_eq (h : Rearranged records others) :
    selectSmpUri? records = selectSmpUri? others := by
  refine selectSmpUri?_congr fun order preference => ?_
  have hgroup : ∀ records : List NaptrRecord, group records order preference =
      (records.filter (hasRank order preference)).filter usable := by
    intro records
    rw [List.filter_filter]
    rfl
  rw [hgroup, hgroup, h.settled]

end Selection

/-! ## Locating -/

section Locating

open NaptrRecord

variable {answers others : NaptrAnswers} {participant : Identifier} {zone : SmlZone}
  {domain name : String} {record : NaptrRecord}

theorem bdxlHostName_of_ne (h : participant.kind ≠ .participant) (zone : SmlZone) :
    bdxlHostName participant zone =
      .error (.root (.notAParticipant participant.kind)) := by
  obtain ⟨kind, scheme, value, normalizedValue⟩ := participant
  cases kind with
  | participant => exact absurd rfl h
  | documentType => rfl
  | process => rfl

def NaptrAnswers.Elects (answers : NaptrAnswers) (domain : String)
    (record : NaptrRecord) : Prop :=
  ∃ records place, answers domain = some records ∧
    IsFirstUsable records place record

theorem NaptrAnswers.Elects.exists_uri (h : answers.Elects domain record) :
    ∃ uri, record.targetUri? = some uri ∧
      smpUrlOfAnswer domain (answers domain) = parseSmpUrl uri := by
  obtain ⟨records, place, hanswer, hfirst⟩ := h
  obtain ⟨uri, huri⟩ := exists_targetUri?_of_usable hfirst.usable
  have hselect : selectSmpUri? records = some uri :=
    selectSmpUri?_eq_some_iff.mpr ⟨record, isLeast_iff.mpr ⟨place, hfirst⟩, huri⟩
  exact ⟨uri, huri, by rw [hanswer, smpUrlOfAnswer, hselect]⟩

theorem cause_of_parseSmpUrl {text : String} {fault : SmlFault}
    (h : parseSmpUrl text = .error fault) : fault.cause = .invalidSmpUrl text := by
  unfold parseSmpUrl at h
  split at h
  · cases h
  · cases h
    rfl

theorem smpUrlOfAnswer_noSmpRecord_iff {answer : Option (List NaptrRecord)} :
    (∃ fault, smpUrlOfAnswer domain answer = .error fault ∧
      fault.cause = .noSmpRecord name) ↔
      name = domain ∧ ∃ records, answer = some records ∧
        ∀ record ∈ records, record.usable = false := by
  cases answer with
  | none => simp [smpUrlOfAnswer, Fault.foreign]
  | some records =>
      simp only [Option.some.injEq, exists_eq_left', ← selectSmpUri?_eq_none_iff]
      cases hselect : selectSmpUri? records with
      | none =>
          simp only [smpUrlOfAnswer, hselect, Except.error.injEq, exists_eq_left',
            and_true]
          simp [Fault.addContext, Fault.root, eq_comm]
      | some uri =>
          simp only [smpUrlOfAnswer, hselect, reduceCtorEq, and_false, iff_false]
          rintro ⟨fault, hparsed, hcause⟩
          rw [cause_of_parseSmpUrl hparsed] at hcause
          cases hcause

/-- One lookup decides what is located: it fails, it elects a record, or it has
none to elect. -/
structure LocatesByLookup (answers : NaptrAnswers) (domain : String)
    (located : Located) :
    Prop where
  queried : located.queried = [domain]
  failed : answers domain = none →
    located.result = .error (.foreign (.naptrLookup domain))
  elected : ∀ record, answers.Elects domain record →
    ∃ uri, record.targetUri? = some uri ∧ located.result = parseSmpUrl uri
  missing : ∀ name,
    (∃ fault, located.result = .error fault ∧ fault.cause = .noSmpRecord name) ↔
      name = domain ∧ ∃ records, answers domain = some records ∧
        ∀ record ∈ records, record.usable = false

theorem locate_naptr (answers : NaptrAnswers)
    (h : bdxlHostName participant zone = .ok domain) :
    (SmpLocator.naptr answers).locate participant zone =
      ⟨smpUrlOfAnswer domain (answers domain), [domain]⟩ := by
  simp only [SmpLocator.locate, h]

theorem locatesByLookup (answers : NaptrAnswers)
    (h : bdxlHostName participant zone = .ok domain) :
    LocatesByLookup answers domain
      ((SmpLocator.naptr answers).locate participant zone) := by
  rw [locate_naptr answers h]
  refine ⟨rfl, fun hfailed => ?_, fun record helected => helected.exists_uri,
    fun name => ?_⟩
  · simp only [hfailed, smpUrlOfAnswer]
  · exact smpUrlOfAnswer_noSmpRecord_iff

theorem locate_naptr_congr (h : bdxlHostName participant zone = .ok domain)
    (hsame : answers domain = others domain ∨
      ∃ record, answers.Elects domain record ∧ others.Elects domain record) :
    (SmpLocator.naptr answers).locate participant zone =
      (SmpLocator.naptr others).locate participant zone := by
  rw [locate_naptr answers h, locate_naptr others h]
  rcases hsame with hanswer | ⟨record, helects, hothers⟩
  · rw [hanswer]
  · obtain ⟨uri, huri, hresult⟩ := helects.exists_uri
    obtain ⟨other, hother, hotherResult⟩ := hothers.exists_uri
    rw [huri, Option.some.injEq] at hother
    rw [hresult, hotherResult, hother]

/-- The selection is the target of the first usable record, whatever stands between
the usable records and wherever the groups of equal order and preference stand.  A
participant is located by one lookup, of its BDXL host name, and as the record that
the answer elects says; nothing is looked up for anything else. -/
theorem naptr_selection_is_least :
    (∀ records uri, selectSmpUri? records = some uri ↔
      ∃ place record, IsFirstUsable records place record ∧
        record.targetUri? = some uri) ∧
    (∀ records, selectSmpUri? records = none ↔ ∀ record ∈ records,
      record.usable = false) ∧
    (∀ records others : List NaptrRecord,
      records.filter usable = others.filter usable →
      selectSmpUri? records = selectSmpUri? others) ∧
    (∀ records others, Rearranged records others →
      selectSmpUri? records = selectSmpUri? others) ∧
    (∀ participant zone, participant.kind = .participant →
      ∃ domain, bdxlHostName participant zone = .ok domain ∧ ∀ answers :
        NaptrAnswers,
        LocatesByLookup answers domain
          ((SmpLocator.naptr answers).locate participant zone) ∧
        ∀ others : NaptrAnswers, (answers domain = others domain ∨
            ∃ record, answers.Elects domain record ∧ others.Elects domain record) →
          (SmpLocator.naptr answers).locate participant zone =
            (SmpLocator.naptr others).locate participant zone) ∧
    ∀ answers participant zone, participant.kind ≠ .participant →
      (SmpLocator.naptr answers).locate participant zone =
        ⟨.error (.root (.notAParticipant participant.kind)), []⟩ := by
  refine ⟨fun records uri => ?_, fun _ => selectSmpUri?_eq_none_iff,
    fun _ _ => selectSmpUri?_eq_of_usable,
      fun _ _ => Rearranged.selectSmpUri?_eq, ?_, ?_⟩
  · simp only [selectSmpUri?_eq_some_iff, isLeast_iff]
    constructor
    · rintro ⟨record, ⟨place, hfirst⟩, huri⟩
      exact ⟨place, record, hfirst, huri⟩
    · rintro ⟨place, record, hfirst, huri⟩
      exact ⟨record, ⟨place, hfirst⟩, huri⟩
  · intro participant zone hkind
    have hname := bdxlHostName_eq hkind zone
    exact ⟨_, hname, fun answers => ⟨locatesByLookup answers hname,
      fun _ => locate_naptr_congr hname⟩⟩
  · intro answers participant zone hkind
    simp only [SmpLocator.locate, bdxlHostName_of_ne hkind]

def usableRecord : NaptrRecord :=
  ⟨1, 5, "u", "meta:smp", "!.*!http://first.example!", ""⟩

def mixedRecords : List NaptrRecord :=
  [⟨0, 0, "U", "Meta:SMP", "!^.+$!http://pattern.example!", ""⟩,
    ⟨1, 0, "S", "Meta:SMP", "!.*!http://flags.example!", ""⟩,
    usableRecord,
    ⟨1, 5, "U", "Meta:SMP", "!.*!http://second.example!", ""⟩]

theorem naptr_selection_is_least_mixed :
    IsFirstUsable mixedRecords 2 usableRecord ∧
      selectSmpUri? mixedRecords = some "http://first.example" := by
  have hfirst : IsFirstUsable mixedRecords 2 usableRecord := by
    refine ⟨rfl, by decide +kernel, fun other rival hrival husable hne => ?_⟩
    match other with
    | 0 =>
        cases hrival
        exact absurd husable (by decide +kernel)
    | 1 =>
        cases hrival
        exact absurd husable (by decide +kernel)
    | 2 => exact absurd rfl hne
    | 3 =>
        cases hrival
        exact .inr ⟨rfl, .inr ⟨rfl, by decide⟩⟩
    | other + 4 => cases hrival
  exact ⟨hfirst, (naptr_selection_is_least.1 _ _).mpr
    ⟨2, usableRecord, hfirst, by decide +kernel⟩⟩

end Locating

end EndpointDiscovery
