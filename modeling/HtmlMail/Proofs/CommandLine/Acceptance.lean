import HtmlMail.Proofs.CommandLine.Spelling
import Mathlib.Data.List.Basic
import Mathlib.Data.List.Nodup

/-!
# Which command lines are accepted

The options of a command line are given one after the other, and each one is checked when its turn comes: a tag must
have a name, a path must not be empty, and what can be given once must not be given again. What is missing is looked
for at the end. Taken together this is a condition on the options alone, in which their order plays no part.

* `Use.tag?` : the tag that an option denotes;
* `Given.add_eq_ok_iff` : when one more option is accepted, and what it adds;
* `Given.addAll_eq_ok_iff` : the same for several options;
* `Accepted`, `Spells.exists_parse_eq_ok_iff` : the condition, and that a command line is accepted exactly if its
  options meet it;
* `Spells.tags_of_parse` : the tags of an accepted command line.
-/

namespace HtmlMail.CommandLine

open Template

/-- Whether an option can be given more than once. -/
def Opt.isRepeatable : Opt → Bool
  | tag | flag => true
  | _ => false

/-- **The tag that an option denotes**, if it is one of the two that denote tags and its value can be read. -/
def Use.tag? (use : Use) : Option Tag :=
  match use.opt, use.value? with
  | .tag, some value => (readTag value).toOption
  | .flag, some value => (readFlag value).toOption
  | _, _ => none

/-- Whether an option can be read: it does not ask for something else than a mail, a path is not empty, and a tag is
one. -/
structure Use.IsReadable (use : Use) : Prop where
  ne_help : use.opt ≠ .help
  ne_version : use.opt ≠ .version
  path : use.opt.isPath → use.value? ≠ some ""
  tag : use.opt.isRepeatable → use.tag?.isSome

/-- The options that have been given and cannot be given again. -/
def Given.opts (given : Given) : List Opt := given.single.map (·.1)

/-- What has been given after an option that can be read. -/
def Given.plus (given : Given) (use : Use) : Given :=
  match use.opt with
  | .tag => { given with tags := given.tags ++ use.tag?.toList }
  | .flag => { given with flags := given.flags ++ use.tag?.toList }
  | opt => { given with single := given.single ++ [(opt, use.value?.getD "")] }

variable {given given' : Given} {use : Use} {uses : List Use} {opt : Opt} {arguments : List String} {args : Arguments}

/-! ### One option -/

namespace Given

theorem isSome_value?_iff : (given.value? opt).isSome ↔ opt ∈ given.opts := by
  rw [value?, List.lookup_isSome_iff, opts, List.mem_map]
  exact exists_congr fun p => and_congr_right fun _ => beq_iff_eq.trans eq_comm

theorem addSingle_eq_ok_iff {value : String} : given.addSingle opt value = .ok given' ↔
    opt ∉ given.opts ∧ (opt.isPath → value ≠ "") ∧
      given' = { given with single := given.single ++ [(opt, value)] } := by
  rw [← isSome_value?_iff, addSingle]
  by_cases hgiven : (given.value? opt).isSome
  · simp [hgiven]
  · have hpath : (opt.isPath && value.isEmpty) = true ↔ ¬ (opt.isPath → value ≠ "") := by simp
    by_cases hread : opt.isPath → value ≠ ""
    · rw [if_neg hgiven, if_neg (by simpa using hread), Except.ok.injEq]
      exact ⟨fun h => ⟨hgiven, hread, h.symm⟩, fun h => h.2.2.symm⟩
    · rw [if_neg hgiven, if_pos (hpath.2 hread)]
      exact ⟨fun h => (nomatch h), fun h => absurd h.2.1 hread⟩

theorem plus_of_single (hopt : use.opt.isRepeatable = false) :
    given.plus use = { given with single := given.single ++ [(use.opt, use.value?.getD "")] } := by
  obtain ⟨opt, value?⟩ := use
  cases opt <;> first | rfl | cases hopt

/-- A tag is added if it can be read. -/
theorem addValue_tag_eq_ok_iff {value : String} (hopt : opt.isRepeatable) :
    given.addValue opt value = .ok given' ↔
      (Use.tag? ⟨opt, some value⟩).isSome ∧ given' = given.plus ⟨opt, some value⟩ := by
  cases opt
  case tag =>
    cases hread : readTag value <;> simp [addValue, Use.tag?, plus, hread, Except.toOption, eq_comm]
  case flag =>
    cases hread : readFlag value <;> simp [addValue, Use.tag?, plus, hread, Except.toOption, eq_comm]
  all_goals cases hopt

end Given

theorem Use.isReadable_iff_of_repeatable (hopt : use.opt.isRepeatable) : use.IsReadable ↔ use.tag?.isSome := by
  refine ⟨fun h => h.tag hopt, fun h => ?_⟩
  obtain ⟨opt, value?⟩ := use
  cases opt
  case tag => exact ⟨nofun, nofun, nofun, fun _ => h⟩
  case flag => exact ⟨nofun, nofun, nofun, fun _ => h⟩
  all_goals cases hopt

theorem Use.isReadable_iff_of_single {value : String} (hopt : opt.isRepeatable = false) (hvalue : opt.takesValue) :
    Use.IsReadable ⟨opt, some value⟩ ↔ (opt.isPath → value ≠ "") := by
  refine ⟨fun h hpath hempty => h.path hpath (congrArg some hempty), fun h => ⟨?_, ?_, ?_, ?_⟩⟩
  · rintro rfl
    cases hvalue
  · rintro rfl
    cases hvalue
  · exact fun hpath hempty => h hpath (Option.some.inj hempty)
  · exact fun hrepeatable => absurd hrepeatable (by simp [hopt])

/-- **When one more option is accepted**: if it can be read, and has not been given if it can be given once only. -/
theorem Given.add_eq_ok_iff (hvalue : use.value?.isNone = !use.opt.takesValue) :
    given.add use.opt use.value? = .ok given' ↔
      use.IsReadable ∧ (use.opt.isRepeatable = false → use.opt ∉ given.opts) ∧ given' = given.plus use := by
  have hstop (x : Except ArgumentError Given) : x.mapError Stop.error = .ok given' ↔ x = .ok given' := by
    cases x <;> simp [Except.mapError]
  obtain ⟨opt, value?⟩ := use
  cases value? with
  | none =>
    -- Three options take no value, and two of them end the reading.
    cases opt
    case noInline =>
      have hread : Use.IsReadable ⟨.noInline, none⟩ := ⟨nofun, nofun, nofun, nofun⟩
      have hadd : given.add .noInline none = (given.addSingle .noInline "").mapError .error := rfl
      rw [hadd, hstop, addSingle_eq_ok_iff]
      exact ⟨fun h => ⟨hread, fun _ => h.1, h.2.2⟩, fun h => ⟨h.2.1 rfl, nofun, h.2.2⟩⟩
    case help => exact ⟨nofun, fun h => absurd rfl h.1.ne_help⟩
    case version => exact ⟨nofun, fun h => absurd rfl h.1.ne_version⟩
    all_goals cases hvalue
  | some value =>
    have htakes : opt.takesValue := by simpa using hvalue
    rw [add, hstop]
    by_cases hopt : opt.isRepeatable
    · have hread : Use.IsReadable ⟨opt, some value⟩ ↔ (Use.tag? ⟨opt, some value⟩).isSome :=
        Use.isReadable_iff_of_repeatable hopt
      rw [addValue_tag_eq_ok_iff hopt, hread]
      simp [hopt]
    · have hopt : opt.isRepeatable = false := by simpa using hopt
      have hadd : given.addValue opt value = given.addSingle opt value := by
        cases opt <;> first | rfl | cases hopt
      rw [hadd, addSingle_eq_ok_iff, Use.isReadable_iff_of_single hopt htakes, plus_of_single hopt]
      simp [hopt, and_left_comm]

/-! ### All options -/

/-- The options of a row that can be given once only. -/
def singles (uses : List Use) : List Opt := (uses.map (·.opt)).filter (!·.isRepeatable)

/-- The tags that the options of one name denote, in the order of the row. -/
def tagsBy (opt : Opt) (uses : List Use) : List Tag := (uses.filter (·.opt = opt)).filterMap Use.tag?

theorem singles_cons (use : Use) (uses : List Use) : singles (use :: uses) = singles [use] ++ singles uses := by
  rw [← List.singleton_append, singles, List.map_append, List.filter_append]
  rfl

theorem tagsBy_cons (opt : Opt) (use : Use) (uses : List Use) :
    tagsBy opt (use :: uses) = tagsBy opt [use] ++ tagsBy opt uses := by
  rw [← List.singleton_append, tagsBy, List.filter_append, List.filterMap_append]
  rfl

/-- An option adds itself to those that cannot be given again, unless it can. -/
theorem singles_singleton (use : Use) : singles [use] = if use.opt.isRepeatable then [] else [use.opt] := by
  rw [singles, List.map_singleton, List.filter_singleton]
  cases use.opt.isRepeatable <;> rfl

theorem tagsBy_singleton (opt : Opt) (use : Use) :
    tagsBy opt [use] = if use.opt = opt then use.tag?.toList else [] := by
  rw [tagsBy, List.filter_singleton]
  by_cases hopt : use.opt = opt
  · rw [if_pos hopt, decide_eq_true hopt, cond_true, List.filterMap_cons]
    cases use.tag? <;> rfl
  · rw [if_neg hopt, decide_eq_false hopt]
    rfl

namespace Given

/-- What an option adds is in the place of its kind. -/
theorem plus_spec (given : Given) (use : Use) :
    (given.plus use).opts = given.opts ++ singles [use] ∧
      (given.plus use).tags = given.tags ++ tagsBy .tag [use] ∧
      (given.plus use).flags = given.flags ++ tagsBy .flag [use] := by
  rw [singles_singleton, tagsBy_singleton, tagsBy_singleton]
  obtain ⟨opt, value?⟩ := use
  cases opt <;> simp [plus, opts, Opt.isRepeatable]

/-- What several options add. -/
theorem foldl_plus_spec (given : Given) (uses : List Use) :
    (uses.foldl plus given).opts = given.opts ++ singles uses ∧
      (uses.foldl plus given).tags = given.tags ++ tagsBy .tag uses ∧
      (uses.foldl plus given).flags = given.flags ++ tagsBy .flag uses := by
  induction uses generalizing given with
  | nil => simp [singles, tagsBy]
  | cons use uses ih =>
    obtain ⟨hopts, htags, hflags⟩ := given.plus_spec use
    rw [List.foldl_cons, (ih _).1, (ih _).2.1, (ih _).2.2, hopts, htags, hflags, singles_cons use uses,
      tagsBy_cons .tag use uses, tagsBy_cons .flag use uses]
    simp only [List.append_assoc, and_self]

/-- **When several options are accepted**: if each of them can be read, and those that can be given once only differ
from one another and from what has been given. -/
theorem addAll_eq_ok_iff (hvalue : ∀ use ∈ uses, use.value?.isNone = !use.opt.takesValue)
    (hgiven : given.opts.Nodup) : given.addAll uses = .ok given' ↔
      (∀ use ∈ uses, use.IsReadable) ∧ (given.opts ++ singles uses).Nodup ∧ given' = uses.foldl plus given := by
  -- For all that has been given before, since each option is checked against that.
  induction uses generalizing given with
  | nil =>
    have hnothing : given.addAll [] = .ok given := rfl
    simp [hnothing, singles, hgiven, eq_comm]
  | cons use uses ih =>
    obtain ⟨hfirst, hrest⟩ := List.forall_mem_cons.1 hvalue
    have hopts := (given.plus_spec use).1
    have hnodup : (given.plus use).opts.Nodup ↔ (use.opt.isRepeatable = false → use.opt ∉ given.opts) := by
      rw [hopts, singles_singleton]
      by_cases hopt : use.opt.isRepeatable
      · simp [hopt, hgiven]
      · rw [if_neg hopt, List.nodup_append_comm, List.singleton_append, List.nodup_cons]
        simp [hopt, hgiven]
    rw [addAll_cons, List.forall_mem_cons, singles_cons use uses, ← List.append_assoc, ← hopts, List.foldl_cons]
    constructor
    · intro h
      obtain ⟨given₁, hadd, h⟩ := exists_of_bind_eq_ok h
      obtain ⟨hread, hnew, rfl⟩ := (add_eq_ok_iff hfirst).1 hadd
      obtain ⟨hreads, hall, rfl⟩ := (ih hrest (hnodup.2 hnew)).1 h
      exact ⟨⟨hread, hreads⟩, hall, rfl⟩
    · rintro ⟨⟨hread, hreads⟩, hall, rfl⟩
      have hone := (List.nodup_append.1 hall).1
      have hadd := (add_eq_ok_iff hfirst).2 ⟨hread, hnodup.1 hone, rfl⟩
      rw [hadd]
      exact (ih hrest hone).2 ⟨hreads, hall, rfl⟩

/-- **What has to be given**: a template, the layout of a stylesheet, and the number of the mail that a token is for. -/
theorem missing_eq_nil_iff : given.missing = [] ↔ .template ∈ given.opts ∧
    (.css ∈ given.opts → .master ∈ given.opts) ∧ (.webVersionToken ∈ given.opts → .trackingId ∈ given.opts) := by
  have hgiven (opt : Opt) : ¬ ((given.value? opt).isNone = true) ↔ opt ∈ given.opts := by
    rw [← isSome_value?_iff]
    cases given.value? opt <;> simp
  rw [missing, List.filter_eq_nil_iff, List.forall_mem_cons]
  simp only [hgiven]
  refine and_congr_right fun _ => ⟨fun h => ⟨fun hopt => ?_, fun hopt => ?_⟩, fun ⟨hlayout, htracking⟩ needed h => ?_⟩
  · obtain ⟨⟨_, value⟩, hmem, rfl⟩ := List.mem_map.1 hopt
    exact h .master (List.mem_filterMap.2 ⟨_, hmem, rfl⟩)
  · obtain ⟨⟨_, value⟩, hmem, rfl⟩ := List.mem_map.1 hopt
    exact h .trackingId (List.mem_filterMap.2 ⟨_, hmem, rfl⟩)
  · -- Only two options need another one.
    obtain ⟨⟨opt, value⟩, hmem, hneeded⟩ := List.mem_filterMap.1 h
    cases opt
    case css =>
      cases hneeded
      exact hlayout (List.mem_map_of_mem hmem)
    case webVersionToken =>
      cases hneeded
      exact htracking (List.mem_map_of_mem hmem)
    all_goals cases hneeded

/-- The tags are the ones that have been given. -/
theorem tags_of_complete (h : given.complete = .ok args) : args.tags = given.tags ∧ args.flags = given.flags := by
  unfold complete at h
  split at h
  · cases h
    exact ⟨rfl, rfl⟩
  · cases h

theorem exists_complete_eq_ok_iff : (∃ args, given.complete = .ok args) ↔ given.missing = [] := by
  constructor
  · rintro ⟨args, h⟩
    unfold complete at h
    split at h
    · assumption
    · cases h
  · intro h
    have htemplate := isSome_value?_iff.2 (missing_eq_nil_iff.1 h).1
    obtain ⟨template, htemplate⟩ := Option.isSome_iff_exists.1 htemplate
    unfold complete
    rw [h, htemplate]
    exact ⟨_, rfl⟩

end Given

/-! ### Command lines -/

/-- **A row of options that is accepted**: each one can be read, what can be given once is given once, and nothing is
missing. -/
structure Accepted (uses : List Use) : Prop where
  readable : ∀ use ∈ uses, use.IsReadable
  once : (singles uses).Nodup
  template : .template ∈ singles uses
  layout : .css ∈ singles uses → .master ∈ singles uses
  tracking : .webVersionToken ∈ singles uses → .trackingId ∈ singles uses

/-- A spelled option has a value exactly if it takes one. -/
theorem Spells.isNone_value? (h : Spells arguments uses) : ∀ use ∈ uses, use.value?.isNone = !use.opt.takesValue := by
  induction h with
  | nothing => exact nofun
  | closed => exact nofun
  | cons h _ ih =>
    refine List.forall_mem_cons.2 ⟨?_, ih⟩
    cases h <;> simp_all

/-- **When a spelled command line is accepted**, and what it comes to. -/
theorem Spells.parse_eq_ok_iff (h : Spells arguments uses) : Arguments.parse arguments = .ok args ↔
    (∀ use ∈ uses, use.IsReadable) ∧ (singles uses).Nodup ∧
      (uses.foldl Given.plus ⟨[], [], []⟩).complete = .ok args := by
  have hstop (x : Except ArgumentError Arguments) : x.mapError Stop.error = .ok args ↔ x = .ok args := by
    cases x <;> simp [Except.mapError]
  -- All uses are added to what is given, and then it is checked that nothing is missing.
  have hgiven (given : Given) : Given.ofUses uses = .ok given ↔
      (∀ use ∈ uses, use.IsReadable) ∧ (singles uses).Nodup ∧ given = uses.foldl Given.plus ⟨[], [], []⟩ :=
    Given.addAll_eq_ok_iff h.isNone_value? List.nodup_nil
  rw [h.parse_eq]
  constructor
  · intro hparse
    obtain ⟨given, hadd, hcomplete⟩ := exists_of_bind_eq_ok hparse
    obtain ⟨hread, honce, rfl⟩ := (hgiven given).1 hadd
    exact ⟨hread, honce, (hstop _).1 hcomplete⟩
  · rintro ⟨hread, honce, hcomplete⟩
    rw [(hgiven _).2 ⟨hread, honce, rfl⟩]
    exact (hstop _).2 hcomplete

/-- **A command line is accepted** exactly if its options are. -/
theorem Spells.exists_parse_eq_ok_iff (h : Spells arguments uses) :
    (∃ args, Arguments.parse arguments = .ok args) ↔ Accepted uses := by
  have hopts := (Given.foldl_plus_spec ⟨[], [], []⟩ uses).1
  rw [exists_congr fun _ => h.parse_eq_ok_iff, exists_and_left, exists_and_left, Given.exists_complete_eq_ok_iff,
    Given.missing_eq_nil_iff, hopts]
  exact ⟨fun ⟨hread, honce, htemplate, hlayout, htracking⟩ => ⟨hread, honce, htemplate, hlayout, htracking⟩,
    fun h => ⟨h.readable, h.once, h.template, h.layout, h.tracking⟩⟩

/-- **The tags of an accepted command line**, by kind. -/
theorem Spells.tags_of_parse (h : Spells arguments uses) (hparse : Arguments.parse arguments = .ok args) :
    args.tags = tagsBy .tag uses ∧ args.flags = tagsBy .flag uses := by
  obtain ⟨-, htags, hflags⟩ := Given.foldl_plus_spec ⟨[], [], []⟩ uses
  obtain ⟨hargsTags, hargsFlags⟩ := Given.tags_of_complete (h.parse_eq_ok_iff.1 hparse).2.2
  exact ⟨hargsTags.trans htags, hargsFlags.trans hflags⟩

end HtmlMail.CommandLine
