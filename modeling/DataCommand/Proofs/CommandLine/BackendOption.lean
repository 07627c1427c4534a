import DataCommand.CommandLine.Invocation
import Mathlib.Data.List.Basic

/-!
The option that names a backend. Its name stands behind it as an argument of its own, or is joined
to it in one argument. The reader drops every mark from the front of a joined name and none from a
name of its own. So the two spellings differ only for names that begin with the mark: apart they are
never the name of a backend, and joined they may be one.
-/

namespace DataCommand

/-- No name of a backend begins with a dash. -/
theorem Backend.parse_of_dash {name : String} (hname : name.toList.head? = some '-') :
    parse name =
      .error (.invalid (.unknownBackend (String.ofList (foldCase (Text.trim name))))) := by
  have hhead : (String.ofList (foldCase (Text.trim name))).toList.head? = some '-' := by
    rw [String.toList_ofList, foldCase, List.head?_map, Text.head?_trim hname (by decide)]
    rfl
  have hnames : ∀ b : Backend, ∀ word ∈ "ansi" :: b.name :: b.aliases,
      word.toList.head? ≠ some '-' := by
    intro b
    cases b <;> decide
  have hother : ∀ b : Backend, ∀ word ∈ "ansi" :: b.name :: b.aliases,
      word ≠ String.ofList (foldCase (Text.trim name)) :=
    fun b word hword heq => hnames b word hword (heq ▸ hhead)
  have hnone : named? (String.ofList (foldCase (Text.trim name))) = none := by
    rw [named?, List.find?_eq_none]
    intro b _
    have hname := hother b b.name (by simp)
    have halias : String.ofList (foldCase (Text.trim name)) ∉ b.aliases :=
      fun h => hother b _ (by simp [h]) rfl
    simp [hname, halias]
  have hansi := hother .standard "ansi" (by simp)
  simp [parse, hansi.symm, hnone]

namespace CommandLine

/-! ### One argument of `render` -/

/-- An option whose name is the argument behind it. -/
def takesName (word : String) : Bool := word == "--dialect" || word == "-d"

/-- An option and its name as one argument. -/
def joinedOption (name : String) : String := "--dialect=" ++ name

/-- A name that begins with the mark itself. -/
def IsMarked (name : String) : Prop := backendMark <+: name.toList

instance (name : String) : Decidable (IsMarked name) :=
  inferInstanceAs (Decidable (backendMark <+: name.toList))

/-- The draft with a backend. -/
def RenderDraft.named (r : RenderDraft) (name : String) : Except UsageFault RenderDraft :=
  (namedBackend name).map fun backend => { r with backend := some backend }

/-- What an argument makes of the draft if it is neither a request for help nor an option whose name
follows. -/
def RenderDraft.take (r : RenderDraft) (word : String) : Except UsageFault RenderDraft :=
  if backendMark.isPrefixOf word.toList then r.named (inlineName word)
  else if word = "--quote" then .ok { r with quote := true }
  else if word = "--json" then .ok { r with json := true }
  else if isOption word then .error (.unknownArgument word)
  else if r.file.isSome then .error (.extraArgument word)
  else .ok { r with file := some word }

variable {r : RenderDraft} {word option name : String} {rest : List String}

theorem takesName_iff : takesName word = true ↔ word = "--dialect" ∨ word = "-d" := by
  simp [takesName]

theorem isHelp_of_takesName (h : takesName option = true) : isHelp option = false := by
  rcases takesName_iff.1 h with rfl | rfl <;> decide

theorem readRender_help (h : isHelp word = true) :
    readRender r (word :: rest) = .ok (.help .render) := by
  rw [readRender.eq_def]
  simp [h]

theorem readRender_word (hword : takesName word = false) (hhelp : isHelp word = false) :
    readRender r (word :: rest) = (r.take word).bind fun s => readRender s rest := by
  have hplain : ¬(word = "--dialect" ∨ word = "-d") := by simp [← takesName_iff, hword]
  rw [readRender.eq_def]
  simp only [hhelp, Bool.false_eq_true, if_false, if_neg hplain, RenderDraft.take,
    RenderDraft.named]
  cases namedBackend (inlineName word) <;> grind [Except.bind, Except.map]

theorem readRender_option (h : takesName option = true) :
    readRender r (option :: name :: rest) = (r.named name).bind fun s => readRender s rest := by
  rw [readRender.eq_def]
  simp only [isHelp_of_takesName h, Bool.false_eq_true, if_false, if_pos (takesName_iff.1 h),
    RenderDraft.named]
  cases namedBackend name <;> rfl

/-! ### Joined names -/

theorem toList_joinedOption (name : String) :
    (joinedOption name).toList = backendMark ++ name.toList := by
  rw [joinedOption, String.toList_append]
  rfl

theorem length_backendMark : backendMark.length = 10 := by decide

/-- An argument that begins with the mark is no option of another kind. -/
theorem plain_joinedOption (name : String) :
    takesName (joinedOption name) = false ∧ isHelp (joinedOption name) = false := by
  have hlong : ∀ other : String, other.toList.length < 10 → joinedOption name ≠ other := by
    intro other hother heq
    have hlength := congrArg (fun s : String => s.toList.length) heq
    simp only [toList_joinedOption, List.length_append, length_backendMark] at hlength
    omega
  constructor
  · simp [takesName, hlong "--dialect" (by decide), hlong "-d" (by decide)]
  · simp [isHelp, hlong "--help" (by decide), hlong "-h" (by decide)]

/-- The name in a joined option is read as if it stood apart without its marks. -/
theorem readRender_joined (h : takesName option = true) :
    readRender r (joinedOption name :: rest) =
      readRender r (option :: inlineName (joinedOption name) :: rest) := by
  obtain ⟨hword, hhelp⟩ := plain_joinedOption name
  have hmark : backendMark.isPrefixOf (joinedOption name).toList = true := by
    rw [toList_joinedOption]
    exact List.isPrefixOf_iff_prefix.2 (List.prefix_append ..)
  rw [readRender_word hword hhelp, readRender_option h, RenderDraft.take, if_pos hmark]

theorem dropMarks_of_not_prefix {mark cs : List Char} (h : ¬ mark <+: cs) (fuel : Nat) :
    dropMarks mark fuel cs = cs := by
  cases fuel with
  | zero => rfl
  | succ fuel => rw [dropMarks, if_neg (mt List.isPrefixOf_iff_prefix.1 h)]

theorem dropMarks_append (mark cs : List Char) (fuel : Nat) :
    dropMarks mark (fuel + 1) (mark ++ cs) = dropMarks mark fuel cs := by
  have hmark : mark.isPrefixOf (mark ++ cs) = true :=
    List.isPrefixOf_iff_prefix.2 (List.prefix_append ..)
  rw [dropMarks, if_pos hmark, List.drop_left]

theorem inlineName_joinedOption (h : ¬ IsMarked name) : inlineName (joinedOption name) = name := by
  have hlength : (joinedOption name).length = name.length + 9 + 1 := by
    rw [← String.length_toList, toList_joinedOption, List.length_append, length_backendMark,
      String.length_toList]
    omega
  rw [inlineName, toList_joinedOption, hlength, dropMarks_append, dropMarks_of_not_prefix h,
    String.ofList_toList]

/-- A name that begins with the mark is refused where it stands apart. -/
theorem named_of_isMarked (h : IsMarked name) : ∃ fault, r.named name = .error fault := by
  have hdash : name.toList.head? = some '-' := by
    obtain ⟨cs, hcs⟩ := h
    rw [← hcs]
    rfl
  exact ⟨_, by rw [RenderDraft.named, namedBackend, Backend.parse_of_dash hdash]; rfl⟩

/-! ### Two spellings of one line -/

/-- The arguments of `render` in two spellings: in the second one, some names are joined to their
options. `names` are those that are joined in front of any request for help. -/
inductive Respelled : List String → List String → List String → Prop where
  | done : Respelled [] [] []
  /-- An option that lacks its name. -/
  | last {option : String} (hoption : takesName option = true) : Respelled [] [option] [option]
  | help {names words words' : List String} {word : String} (hword : isHelp word = true)
      (hrest : Respelled names words words') : Respelled [] (word :: words) (word :: words')
  | word {names words words' : List String} {word : String} (hword : takesName word = false)
      (hhelp : isHelp word = false) (hrest : Respelled names words words') :
      Respelled names (word :: words) (word :: words')
  | apart {names words words' : List String} {option name : String}
      (hoption : takesName option = true) (hrest : Respelled names words words') :
      Respelled names (option :: name :: words) (option :: name :: words')
  | joined {names words words' : List String} {option name : String}
      (hoption : takesName option = true) (hrest : Respelled names words words') :
      Respelled (name :: names) (option :: name :: words) (joinedOption name :: words')

namespace Respelled
variable {names words words' : List String}

/-- Names without a mark are read alike in both spellings. -/
theorem readRender_eq (h : Respelled names words words') (hnames : ∀ name ∈ names, ¬ IsMarked name)
    (r : RenderDraft) : readRender r words = readRender r words' := by
  induction h generalizing r with
  | done => rfl
  | last => rfl
  | help hword => rw [readRender_help hword, readRender_help hword]
  | word hword hhelp hrest ih =>
    rw [readRender_word hword hhelp, readRender_word hword hhelp]
    exact congrArg _ (funext (ih hnames))
  | apart hoption hrest ih =>
    rw [readRender_option hoption, readRender_option hoption]
    exact congrArg _ (funext (ih hnames))
  | joined hoption hrest ih =>
    obtain ⟨hname, hnames⟩ := List.forall_mem_cons.1 hnames
    rw [readRender_joined hoption, inlineName_joinedOption hname, readRender_option hoption,
      readRender_option hoption]
    exact congrArg _ (funext (ih hnames))

/-- A line with a marked name is refused if the name stands apart. -/
theorem exists_readRender_eq_error (h : Respelled names words words')
    (hnames : ∃ name ∈ names, IsMarked name) (r : RenderDraft) :
    ∃ fault, readRender r words = .error fault := by
  -- whatever is read in front of the name is refused, or the reading comes to the name
  have hbind : ∀ {e : Except UsageFault RenderDraft} {rest : List String},
      (∀ s, ∃ fault, readRender s rest = .error fault) →
        ∃ fault, (e.bind fun s => readRender s rest) = .error fault := by
    intro e rest hrest
    cases e with
    | error fault => exact ⟨fault, rfl⟩
    | ok s => exact hrest s
  induction h generalizing r with
  | done | last | help => simp at hnames
  | word hword hhelp hrest ih =>
    rw [readRender_word hword hhelp]
    exact hbind (ih hnames)
  | apart hoption hrest ih =>
    rw [readRender_option hoption]
    exact hbind (ih hnames)
  | joined hoption hrest ih =>
    rw [readRender_option hoption]
    obtain ⟨name, hname, hmarked⟩ := hnames
    rcases List.mem_cons.1 hname with rfl | hname
    · obtain ⟨fault, hfault⟩ := named_of_isMarked (r := r) hmarked
      exact ⟨fault, by rw [hfault]; rfl⟩
    · exact hbind (ih ⟨name, hname, hmarked⟩)

end Respelled

/-- A joined name is read as if it stood apart without the marks that it begins with. So both
spellings of a line are answered alike, down to the fault, if no joined name in front of a request
for help begins with the mark. Otherwise the line with the names apart is refused, and the
answers agree, up to the fault, exactly if the line with the joined names is refused, too. -/
theorem backend_spellings_agree_iff {names words words' : List String}
    (h : Respelled names words words') :
    let apart := parse ("render" :: words)
    let joined := parse ("render" :: words')
    (∀ r option name rest, takesName option = true →
      readRender r (joinedOption name :: rest) =
        readRender r (option :: inlineName (joinedOption name) :: rest)) ∧
    ((∀ name ∈ names, ¬ IsMarked name) → apart = joined) ∧
    ((∃ name ∈ names, IsMarked name) → ∃ fault, apart = .error fault) ∧
    (apart.toOption = joined.toOption ↔
      (∀ name ∈ names, ¬ IsMarked name) ∨ ∃ fault, joined = .error fault) := by
  have hparse : ∀ rest, parse ("render" :: rest) = readRender {} rest := by
    intro rest
    simp [parse, isHelp]
  intro apart joined
  have hsame : (∀ name ∈ names, ¬ IsMarked name) → apart = joined := by
    intro hnames
    exact (hparse _).trans ((h.readRender_eq hnames {}).trans (hparse _).symm)
  have hrefused : (∃ name ∈ names, IsMarked name) → ∃ fault, apart = .error fault := by
    intro hnames
    obtain ⟨fault, hfault⟩ := h.exists_readRender_eq_error hnames {}
    exact ⟨fault, (hparse _).trans hfault⟩
  refine ⟨fun _ _ _ _ => readRender_joined, hsame, hrefused, ?_⟩
  by_cases hnames : ∀ name ∈ names, ¬ IsMarked name
  · exact iff_of_true (congrArg _ (hsame hnames)) (.inl hnames)
  · obtain ⟨fault, hfault⟩ := hrefused (by simpa using hnames)
    rw [hfault]
    cases joined with
    | error fault => simp [Except.toOption]
    | ok answer => simp [Except.toOption, hnames]

/-- A name with a mark in front of it is refused apart and taken for a backend when it is joined. -/
theorem backend_spellings_agree_iff_marked :
    let words := ["q.toml", "-d", "pg", "--dialect", "--dialect=mysql", "--json"]
    let words' := ["q.toml", "--dialect=pg", "--dialect=--dialect=mysql", "--json"]
    Respelled ["pg", "--dialect=mysql"] words words' ∧
      (∃ fault, parse ("render" :: words) = .error fault) ∧
      parse ("render" :: words') =
        .ok (.render { file := "q.toml", backend := some .mysql, quote := false, json := true }) ∧
      (parse ("render" :: words)).toOption ≠ (parse ("render" :: words')).toOption := by
  intro words words'
  have h : Respelled ["pg", "--dialect=mysql"] words words' :=
    .word rfl rfl (.joined rfl (.joined rfl (.word rfl rfl .done)))
  obtain ⟨-, -, hrefused, hagree⟩ := backend_spellings_agree_iff h
  have hmarked : ∃ name ∈ ["pg", "--dialect=mysql"], IsMarked name :=
    ⟨"--dialect=mysql", by simp, by decide⟩
  have hjoined : parse ("render" :: words') =
      .ok (.render { file := "q.toml", backend := some .mysql, quote := false, json := true }) := by
    rfl
  refine ⟨h, hrefused hmarked, hjoined, fun hsame => ?_⟩
  rcases hagree.1 hsame with hnone | ⟨fault, hfault⟩
  · obtain ⟨name, hname, hname'⟩ := hmarked
    exact hnone name hname hname'
  · rw [hjoined] at hfault
    cases hfault

end CommandLine

end DataCommand
