import HtmlMail.CommandLine.Arguments
import HtmlMail.Outcome

/-!
# How options are written

A command line is read argument by argument, and an option whose value is the next argument is looked at only when
the option after it begins. What is read this way is a plain row of options, each of which has a spelling of its own:
one argument, or two if the value stands apart. This module says which command lines spell which options, and that
reading one is the same as giving its options one after the other.

* `Use` : an option with its value, and `Use.Spelled` : the arguments that are written for it;
* `Spells` : the command lines of a row of options;
* `Given.ofUses` : what options come to that are given one after the other;
* `Spells.parse_eq` : that is what reading their command line comes to, errors included;
* `exists_spells_of_parse` : a command line that can be read spells options.
-/

namespace HtmlMail.CommandLine

open Chars

/-- An option on a command line with its value, if it has one. -/
structure Use where
  opt : Opt
  value? : Option String
  deriving DecidableEq, Repr

/-- Whether an argument is no option but a text. A single hyphen is one. -/
def isText (argument : String) : Bool :=
  match argument.toList with
  | '-' :: _ :: _ => false
  | _ => true

/-- The long name of an option as it is written. -/
def Opt.longName (opt : Opt) : String := String.ofList ('-' :: '-' :: opt.name.toList)

/-- **The spellings of an option.** A value stands behind an equals sign, in the next argument if that is a text, or
directly behind the short name. -/
inductive Use.Spelled : Use → List String → Prop
  | bare {opt : Opt} (h : ¬ opt.takesValue) : Spelled ⟨opt, none⟩ [opt.longName]
  | attached {opt : Opt} (h : opt.takesValue) (value : String) :
      Spelled ⟨opt, some value⟩ [opt.longName ++ "=" ++ value]
  | apart {opt : Opt} (h : opt.takesValue) {value : String} (hv : isText value) :
      Spelled ⟨opt, some value⟩ [opt.longName, value]
  | letterAttached {opt : Opt} {letter : Char} (h : opt.takesValue) (hl : opt.letter? = some letter)
      (value : String) : Spelled ⟨opt, some value⟩ [String.ofList ('-' :: letter :: '=' :: value.toList)]
  | letterJoined {opt : Opt} {letter : Char} (h : opt.takesValue) (hl : opt.letter? = some letter)
      {value : String} (hne : value ≠ "") (hv : value.toList.head? ≠ some '=') :
      Spelled ⟨opt, some value⟩ [String.ofList ('-' :: letter :: value.toList)]
  | letterApart {opt : Opt} {letter : Char} (h : opt.takesValue) (hl : opt.letter? = some letter)
      {value : String} (hv : isText value) : Spelled ⟨opt, some value⟩ [String.ofList ['-', letter], value]

/-- **The command lines of a row of options**: their spellings one after the other, perhaps with two bare hyphens at
the end. -/
inductive Spells : List String → List Use → Prop
  | nothing : Spells [] []
  | closed : Spells ["--"] []
  | cons {words arguments : List String} {use : Use} {uses : List Use} (h : use.Spelled words)
      (hrest : Spells arguments uses) : Spells (words ++ arguments) (use :: uses)

/-- What has been given after some more options. -/
def Given.addAll (given : Given) (uses : List Use) : Except Stop Given :=
  uses.foldlM (fun given use => given.add use.opt use.value?) given

/-- **What options come to** that are given one after the other. -/
def Given.ofUses (uses : List Use) : Except Stop Given := Given.addAll ⟨[], [], []⟩ uses

variable {opt : Opt} {value? : Option String} {argument value : String} {letter : Char} {letters name : List Char}
  {progress progress' : Progress} {given : Given} {arguments : List String} {uses : List Use} {args : Arguments}

/-! ### Names of options -/

theorem Opt.ofName?_name (opt : Opt) : Opt.ofName? opt.name = some opt := by
  cases opt <;> decide

theorem Opt.name_of_ofName? {name : String} (h : Opt.ofName? name = some opt) : opt.name = name := by
  simpa using List.find?_some (show Opt.all.find? (·.name = name) = some opt from h)

theorem Opt.ofLetter?_eq (h : opt.letter? = some letter) : Opt.ofLetter? letter = some opt := by
  cases opt <;> cases h <;> decide

theorem Opt.letter?_of_ofLetter? (h : Opt.ofLetter? letter = some opt) : opt.letter? = some letter := by
  simpa using List.find?_some (show Opt.all.find? (·.letter? = some letter) = some opt from h)

/-- A name holds no equals sign, so that it ends at the first one. -/
theorem Opt.equals_not_mem_name (opt : Opt) : '=' ∉ opt.name.toList := by
  cases opt <;> decide

theorem Opt.name_ne_nil (opt : Opt) : opt.name.toList ≠ [] := by
  cases opt <;> decide

/-- No letter is a hyphen, so that an argument with one hyphen is not taken for one with two. -/
theorem Opt.letter_ne_hyphen (h : opt.letter? = some letter) : letter ≠ '-' := by
  cases opt <;> cases h <;> decide

/-- Short options without a value ask for help or for the version. -/
theorem Opt.eq_help_or_version (h : opt.letter? = some letter) (hvalue : ¬ opt.takesValue) :
    opt = .help ∨ opt = .version := by
  cases opt <;> simp_all [Opt.letter?, Opt.takesValue, Opt.valueName?]

/-! ### One argument -/

namespace Progress

/-- **Meeting an option** settles the one before it, and waits for the value if that is to come. -/
theorem meet_eq (progress : Progress) (opt : Opt) (value? : Option String) : progress.meet opt value? =
    progress.settle >>= fun given =>
      if opt.takesValue && value?.isNone then .ok ⟨given, some (opt, none), false⟩
      else (given.add opt value?).map fun given => ⟨given, none, false⟩ := by
  unfold meet
  cases progress.settle with
  | error e => rfl
  | ok given =>
    show (if _ then _ else _) = (if _ then _ else _)
    split
    · rfl
    · cases given.add opt value? <;> rfl

/-- The value in the same argument as a short name, given what follows the name. -/
def attachedValue? : List Char → Option String
  | [] => none
  | '=' :: value => some (String.ofList value)
  | value => some (String.ofList value)

theorem attachedValue?_eq (hne : value ≠ "") (hv : value.toList.head? ≠ some '=') :
    attachedValue? value.toList = some value := by
  unfold attachedValue?
  split
  · next h => exact absurd (String.toList_eq_nil_iff.1 h) hne
  · next h => exact absurd (congrArg List.head? h) hv
  · rw [String.ofList_toList]

theorem meetLetters_eq (progress : Progress) (hvalue : opt.takesValue) (hl : opt.letter? = some letter)
    (letters : List Char) :
    progress.meetLetters (letter :: letters) = progress.meet opt (attachedValue? letters) := by
  rw [meetLetters, Opt.ofLetter?_eq hl]
  simp only [hvalue, if_true]
  split
  · rfl
  · rfl
  · next hnil hequals => rw [attachedValue?.eq_3 letters hnil hequals]

section Step

variable (hopen : progress.isClosed = false)
include hopen

theorem step_name (h : argument.toList = '-' :: '-' :: name) (hne : name ≠ []) :
    progress.step argument = progress.meetName name := by
  simp [step, hopen, h]

theorem step_letters (h : argument.toList = '-' :: letter :: letters) (hletter : letter ≠ '-') :
    progress.step argument = progress.meetLetters (letter :: letters) := by
  simp [step, hopen, h, hletter]

/-- A text is the value of the option that waits for one. -/
theorem step_text (h : isText argument) : progress.step argument = progress.meetText argument := by
  rw [isText] at h
  rw [step, if_neg (by simp [hopen])]
  split <;> simp_all

theorem step_longName (opt : Opt) : progress.step opt.longName = progress.meet opt none := by
  rw [step_name hopen (by rw [Opt.longName, String.toList_ofList]) opt.name_ne_nil]
  simp only [meetName, splitAtChar?_eq_none opt.equals_not_mem_name, String.ofList_toList, Opt.ofName?_name]

theorem step_attached (hvalue : opt.takesValue) (value : String) :
    progress.step (opt.longName ++ "=" ++ value) = progress.meet opt (some value) := by
  have hname : (opt.longName ++ "=" ++ value).toList = '-' :: '-' :: (opt.name.toList ++ '=' :: value.toList) := by
    simp [Opt.longName]
  rw [step_name hopen hname (by simp)]
  simp only [meetName, splitAtChar?_append_cons _ opt.equals_not_mem_name, String.ofList_toList,
    Opt.ofName?_name, hvalue, if_true]

/-- The short name of an option with a value is the only one in its argument. -/
theorem step_letter (hvalue : opt.takesValue) (hl : opt.letter? = some letter) (letters : List Char) :
    progress.step (String.ofList ('-' :: letter :: letters)) = progress.meet opt (attachedValue? letters) := by
  rw [step_letters hopen String.toList_ofList (Opt.letter_ne_hyphen hl), meetLetters_eq progress hvalue hl]

end Step

end Progress

/-! ### A command line -/

/-- What reading some more arguments comes to, once the last option has been looked at. -/
def Progress.finish (progress : Progress) (arguments : List String) : Except Stop Given :=
  arguments.foldlM Progress.step progress >>= Progress.settle

theorem Progress.finish_cons (progress : Progress) (argument : String) (arguments : List String) :
    progress.finish (argument :: arguments) = progress.step argument >>= fun next => next.finish arguments := by
  rw [finish, List.foldlM_cons, bind_assoc]
  rfl

theorem Given.addAll_cons (given : Given) (use : Use) (uses : List Use) :
    given.addAll (use :: uses) = given.add use.opt use.value? >>= fun given => given.addAll uses := by
  rw [addAll, List.foldlM_cons]
  rfl

/-- What reading the rest of a command line comes to, if that spells `uses`: the last option is settled, and these
are given. -/
def Reads (arguments : List String) (uses : List Use) : Prop :=
  ∀ progress : Progress, progress.isClosed = false →
    progress.finish arguments = progress.settle >>= fun given => given.addAll uses

/-- An option that has its value is given at once. -/
theorem Reads.meet (hrest : Reads arguments uses) (progress : Progress)
    (hvalue : (opt.takesValue && value?.isNone) = false) :
    (progress.meet opt value? >>= fun next => next.finish arguments) =
      progress.settle >>= fun given => given.addAll (⟨opt, value?⟩ :: uses) := by
  rw [Progress.meet_eq, bind_assoc]
  refine bind_congr fun given => ?_
  -- Nothing is left to wait for, so what follows is read with the option given.
  rw [if_neg (by simp [hvalue]), Given.addAll_cons]
  cases hadd : given.add opt value? with
  | error e => rfl
  | ok given =>
    have hnext := hrest ⟨given, none, false⟩ rfl
    exact hnext

/-- An option whose value is the next argument is given when that has been read. -/
theorem Reads.meet_apart (hrest : Reads arguments uses) (progress : Progress) (hvalue : opt.takesValue)
    (htext : isText value) : (progress.meet opt none >>= fun next => next.finish (value :: arguments)) =
      progress.settle >>= fun given => given.addAll (⟨opt, some value⟩ :: uses) := by
  rw [Progress.meet_eq, bind_assoc]
  refine bind_congr fun given => ?_
  -- The option waits, and the text that comes becomes its value; it is given when the rest is read.
  rw [if_pos (by simp [hvalue]), Given.addAll_cons]
  show Progress.finish ⟨given, some (opt, none), false⟩ (value :: arguments) = _
  rw [Progress.finish_cons, Progress.step_text rfl htext]
  have hnext := hrest ⟨given, some (opt, some value), false⟩ rfl
  exact hnext

/-- **Reading one option** settles the one before it and gives this one. -/
theorem Use.Spelled.reads {use : Use} {words : List String} (h : use.Spelled words) (hrest : Reads arguments uses) :
    Reads (words ++ arguments) (use :: uses) := by
  intro progress hopen
  -- One case for each spelling, with the value at hand or in the next argument.
  cases h with
  | bare h =>
    rw [List.singleton_append, Progress.finish_cons, Progress.step_longName hopen]
    exact hrest.meet progress (by simp [h])
  | attached h value =>
    rw [List.singleton_append, Progress.finish_cons, Progress.step_attached hopen h]
    exact hrest.meet progress (by simp)
  | apart h hv =>
    rw [List.cons_append, List.singleton_append, Progress.finish_cons, Progress.step_longName hopen]
    exact hrest.meet_apart progress h hv
  | letterAttached h hl value =>
    rw [List.singleton_append, Progress.finish_cons, Progress.step_letter hopen h hl, Progress.attachedValue?,
      String.ofList_toList]
    exact hrest.meet progress (by simp)
  | letterJoined h hl hne hv =>
    rw [List.singleton_append, Progress.finish_cons, Progress.step_letter hopen h hl,
      Progress.attachedValue?_eq hne hv]
    exact hrest.meet progress (by simp)
  | letterApart h hl hv =>
    rw [List.cons_append, List.singleton_append, Progress.finish_cons, Progress.step_letter hopen h hl]
    exact hrest.meet_apart progress h hv

/-- **What a command line spells is what reading it gives.** -/
theorem Spells.reads (h : Spells arguments uses) : Reads arguments uses := by
  induction h with
  | nothing =>
    intro progress _
    rw [Progress.finish, List.foldlM_nil, pure_bind]
    exact (bind_pure _).symm
  | closed =>
    intro progress hopen
    -- Behind the two hyphens no more options are read, so the uses end here.
    have hstep : progress.step "--" = .ok { progress with isClosed := true } := by
      simp [Progress.step, hopen]
    rw [Progress.finish_cons, hstep]
    exact (bind_pure _).symm
  | cons h _ ih => exact h.reads ih

/-- **Reading a command line** gives its options one after the other, and then looks for what is missing. -/
theorem Spells.parse_eq (h : Spells arguments uses) :
    Arguments.parse arguments = Given.ofUses uses >>= fun given => given.complete.mapError .error := by
  have hread := h.reads .start rfl
  rw [Arguments.parse, ← bind_assoc]
  exact congrArg (· >>= fun given => given.complete.mapError .error) hread

/-! ### What can be read -/

namespace Progress

/-- An option that waits for its value cannot be settled without it. -/
theorem settle_of_waiting (hpending : progress.pending? = some (opt, none)) (hvalue : opt.takesValue) :
    progress.settle = .error (.error (.missingValue opt)) := by
  rw [settle, hpending]
  cases opt <;> first | rfl | cases hvalue

/-- **What an option may follow**: one that can be settled. It waits for its value, or is given. -/
theorem exists_of_meet_eq_ok (h : progress.meet opt value? = .ok progress') :
    ∃ given, progress.settle = .ok given ∧
      if opt.takesValue && value?.isNone then progress' = ⟨given, some (opt, none), false⟩
      else ∃ given', given.add opt value? = .ok given' ∧ progress' = ⟨given', none, false⟩ := by
  rw [meet_eq] at h
  -- The option in front is settled first; then this one is given, or waits for its value.
  obtain ⟨given, hsettle, h⟩ := exists_of_bind_eq_ok h
  refine ⟨given, hsettle, ?_⟩
  split at h
  · next hwaits =>
    rw [if_pos hwaits]
    exact (Except.ok.inj h).symm
  · next hwaits =>
    rw [if_neg hwaits]
    cases hadd : given.add opt value? with
    | error e =>
      rw [hadd] at h
      cases h
    | ok given' =>
      rw [hadd] at h
      exact ⟨given', rfl, (Except.ok.inj h).symm⟩

/-- Nothing follows an option that asks for help or for the version. -/
theorem meet_bare_letter (hl : opt.letter? = some letter) (hvalue : ¬ opt.takesValue) :
    progress.meet opt none ≠ .ok progress' := by
  intro h
  obtain ⟨given, -, h⟩ := exists_of_meet_eq_ok h
  rw [if_neg (by simp [hvalue])] at h
  obtain ⟨given', hadd, -⟩ := h
  rcases Opt.eq_help_or_version hl hvalue with rfl | rfl <;> cases hadd

/-- How an argument introduces an option: with its value, or so that the next argument is its value. -/
def Introduces (argument : String) (opt : Opt) (value? : Option String) : Prop :=
  if opt.takesValue && value?.isNone then ∀ value, isText value → Use.Spelled ⟨opt, some value⟩ [argument, value]
  else Use.Spelled ⟨opt, value?⟩ [argument]

/-- An argument with two hyphens introduces an option. -/
theorem exists_of_meetName_eq_ok (h : progress.meetName name = .ok progress')
    (hargument : argument.toList = '-' :: '-' :: name) :
    ∃ opt value?, progress.meet opt value? = .ok progress' ∧ Introduces argument opt value? := by
  unfold meetName at h
  cases hsplit : splitAtChar? '=' name with
  | none =>
    -- A bare name: if there is to be a value, it stands apart.
    simp only [hsplit] at h
    split at h
    · cases h
    · next hv => cases hv
    · next opt hname _ =>
      have hlong : argument = opt.longName := by
        rw [Opt.longName, Opt.name_of_ofName? hname, String.toList_ofList, ← hargument, String.ofList_toList]
      refine ⟨opt, none, h, ?_⟩
      rw [Introduces, hlong]
      split
      · next hwaits => exact fun value hv => .apart (Bool.and_eq_true_iff.1 hwaits).1 hv
      · next hwaits => exact .bare (by simpa using hwaits)
  | some parts =>
    obtain ⟨key, value⟩ := parts
    -- The value is attached, which only an option that takes one allows.
    simp only [hsplit] at h
    split at h
    · cases h
    · next opt given hname hvalue =>
      obtain rfl := Option.some.inj hvalue
      split at h
      · next htakes =>
        have hlong : argument = opt.longName ++ "=" ++ String.ofList value := by
          rw [← String.toList_inj, hargument, splitAtChar?_eq_some hsplit, Opt.longName, Opt.name_of_ofName? hname]
          simp
        refine ⟨opt, some (String.ofList value), h, ?_⟩
        rw [Introduces, if_neg (by simp), hlong]
        exact .attached htakes _
      · cases h
    · next hv => cases hv

/-- An argument with one hyphen introduces an option with a value. -/
theorem exists_of_meetLetters_eq_ok (h : progress.meetLetters (letter :: letters) = .ok progress')
    (hargument : argument.toList = '-' :: letter :: letters) :
    ∃ opt value?, progress.meet opt value? = .ok progress' ∧ Introduces argument opt value? := by
  rw [← String.ofList_toList (s := argument), hargument]
  cases hfound : Opt.ofLetter? letter with
  | none =>
    simp only [meetLetters, hfound] at h
    cases h
  | some opt =>
    have hl := Opt.letter?_of_ofLetter? hfound
    -- A letter without a value is refused, so only the ways to write a value are left.
    by_cases htakes : opt.takesValue
    · rw [meetLetters_eq progress htakes hl] at h
      refine ⟨opt, _, h, ?_⟩
      rw [Introduces]
      unfold attachedValue?
      split
      · rw [if_pos (by simp [htakes])]
        exact fun value hv => .letterApart htakes hl hv
      · next value =>
        rw [if_neg (by simp)]
        have hspelled := Use.Spelled.letterAttached htakes hl (String.ofList value)
        rwa [String.toList_ofList] at hspelled
      · next hnil hequals =>
        rw [if_neg (by simp)]
        have hhead : (String.ofList letters).toList.head? ≠ some '=' := by
          rw [String.toList_ofList]
          intro hhead
          obtain ⟨rest, hrest⟩ := List.head?_eq_some_iff.1 hhead
          exact hequals rest hrest
        have hspelled := Use.Spelled.letterJoined htakes hl (by simpa using hnil) hhead
        rwa [String.toList_ofList] at hspelled
    · simp only [meetLetters, hfound, if_neg htakes] at h
      obtain ⟨next, hmeet, -⟩ := exists_of_bind_eq_ok h
      exact absurd hmeet (meet_bare_letter hl htakes)

/-- **What an argument can be**: the end of the options, the value of the option that waits for one, or an
option. -/
theorem step_cases (h : progress.step argument = .ok progress') : progress.isClosed = false ∧
    ((argument = "--" ∧ progress' = { progress with isClosed := true }) ∨
      (isText argument ∧ ∃ opt, progress.pending? = some (opt, none) ∧
        progress' = { progress with pending? := some (opt, some argument) }) ∨
      ∃ opt value?, progress.meet opt value? = .ok progress' ∧ Introduces argument opt value?) := by
  unfold step at h
  split at h
  · cases h
  · next hopen =>
    refine ⟨by simpa using hopen, ?_⟩
    split at h
    · -- The two hyphens that end the options.
      next hhyphens =>
      exact .inl ⟨String.toList_inj.1 (hhyphens.trans rfl), (Except.ok.inj h).symm⟩
    · next hname => exact .inr (.inr (exists_of_meetName_eq_ok h hname))
    · next hletters => exact .inr (.inr (exists_of_meetLetters_eq_ok h hletters))
    · -- The argument begins no option, so it is the value that is waited for.
      next h1 h2 h3 =>
      refine .inr (.inl ⟨?_, ?_⟩)
      · unfold isText
        split
        · next hletters => exact (h3 _ _ hletters).elim
        · rfl
      · unfold meetText at h
        split at h
        · next opt hpending => exact ⟨opt, hpending, (Except.ok.inj h).symm⟩
        · cases h

end Progress

/-- What follows an argument: the value of an option that waits for one, and then options. -/
def Progress.Continues (progress : Progress) (arguments : List String) : Prop :=
  match progress.pending? with
  | some (_, none) => ∃ value rest, arguments = value :: rest ∧ isText value ∧ ∃ uses, Spells rest uses
  | _ => ∃ uses, Spells arguments uses

theorem Progress.continues_of_settle (hwaits : ∀ opt, progress.pending? = some (opt, none) → opt.takesValue)
    (hsettle : progress.settle = .ok given) (h : ∃ uses, Spells arguments uses) : progress.Continues arguments := by
  unfold Continues
  split
  · next opt hpending =>
    rw [settle_of_waiting hpending (hwaits opt hpending)] at hsettle
    cases hsettle
  · exact h

/-- **A command line that can be read to its end** continues what has been read of it. -/
theorem Progress.continues_of_finish (hopen : progress.isClosed = false)
    (hwaits : ∀ opt, progress.pending? = some (opt, none) → opt.takesValue)
    (h : progress.finish arguments = .ok given) : progress.Continues arguments := by
  -- By induction on what is left, wherever the reading stands: an option may wait for its value.
  induction arguments generalizing progress with
  | nil => exact continues_of_settle hwaits h ⟨[], .nothing⟩
  | cons argument arguments ih =>
    rw [finish_cons] at h
    obtain ⟨next, hstep, hrest⟩ := exists_of_bind_eq_ok h
    obtain ⟨-, ⟨rfl, rfl⟩ | ⟨htext, opt, hpending, rfl⟩ | ⟨opt, value?, hmeet, hintroduces⟩⟩ := step_cases hstep
    · -- Nothing can be read behind the end of the options.
      cases arguments with
      | nil => exact continues_of_settle hwaits hrest ⟨[], .closed⟩
      | cons argument arguments =>
        rw [finish_cons] at hrest
        obtain ⟨next, hstep, -⟩ := exists_of_bind_eq_ok hrest
        exact absurd (step_cases hstep).1 (by simp)
    · -- The value of the option that waits, which has it now.
      have hcontinues : Continues ⟨progress.given, some (opt, some argument), progress.isClosed⟩ arguments :=
        ih hopen (by rintro _ ⟨⟩) hrest
      unfold Continues
      rw [hpending]
      exact ⟨argument, arguments, rfl, htext, hcontinues⟩
    · -- An option, which waits for its value in turn or has it.
      obtain ⟨given', hsettle, hnext⟩ := exists_of_meet_eq_ok hmeet
      refine continues_of_settle hwaits hsettle ?_
      unfold Introduces at hintroduces
      split at hnext
      · next hvalue =>
        obtain rfl := hnext
        rw [if_pos hvalue] at hintroduces
        obtain ⟨value, rest, rfl, htext, uses, huses⟩ :=
          ih rfl (by rintro opt ⟨⟩; exact (Bool.and_eq_true_iff.1 hvalue).1) hrest
        exact ⟨_, .cons (hintroduces value htext) huses⟩
      · next hvalue =>
        obtain ⟨given'', -, rfl⟩ := hnext
        rw [if_neg hvalue] at hintroduces
        obtain ⟨uses, huses⟩ := ih rfl (by simp) hrest
        exact ⟨_, .cons hintroduces huses⟩

/-- **A command line that can be read** spells options. -/
theorem exists_spells_of_parse (h : Arguments.parse arguments = .ok args) : ∃ uses, Spells arguments uses := by
  rw [Arguments.parse, ← bind_assoc] at h
  obtain ⟨given, hfinish, -⟩ := exists_of_bind_eq_ok h
  have hopen : Progress.start.isClosed = false := rfl
  exact Progress.continues_of_finish hopen (by simp [Progress.start]) hfinish

end HtmlMail.CommandLine
