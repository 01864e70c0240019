import GatewayCompiler.CommandLine
import GatewayCompiler.Proofs.Outcome

/-!
# Settings of the command line and of the environment

A setting is what the command line gives, or else what its variable holds, or else its default.  The
environment is checked before the command line is applied to it, so a variable has to hold something
that its setting takes even where the command line gives the setting.
-/

namespace GatewayCompiler

/-- A setting that the command line and the environment can both give. -/
inductive Setting where
  | listenerAddress
  | connectTimeout
  | endpointPolicy
  | clusterDomain
  deriving DecidableEq

namespace Setting

def all : List Setting :=
  [listenerAddress, connectTimeout, endpointPolicy, clusterDomain]

/-- The variable of the setting. -/
def name : Setting → String
  | listenerAddress => Environment.listenerAddress
  | connectTimeout => Environment.connectTimeout
  | endpointPolicy => Environment.endpointPolicy
  | clusterDomain => Environment.clusterDomain

/-- The texts that the setting takes. -/
def Takes : Setting → String → Prop
  | listenerAddress, text => (Address.parse? text).isSome
  | connectTimeout, text =>
    ∃ seconds, Settings.readTimeout text = .ok seconds ∧ isValidTimeout seconds
  | endpointPolicy, text => ∃ mode, EndpointMode.parse text = .ok mode
  | clusterDomain, text => text ≠ ""

theorem mem_all (setting : Setting) : setting ∈ all := by
  cases setting <;> decide

theorem name_injective : name.Injective := by
  intro first second h
  cases first <;> cases second <;> first | rfl | exact absurd h (by decide)

end Setting

namespace Environment

/-- The environment without the variable of a setting. -/
def unset (env : Environment) (setting : Setting) : Environment :=
  fun name => if name = setting.name then none else env name

/-- If the variable of the setting is set, the setting takes what it holds. -/
def Suits (env : Environment) (setting : Setting) : Prop :=
  ∀ text, env setting.name = some text → setting.Takes text

variable {env : Environment} {other : Setting}

theorem unset_name (env : Environment) (setting other : Setting) :
    env.unset setting other.name = if other = setting then none else env other.name := by
  simp only [unset, Setting.name_injective.eq_iff]

theorem foldl_unset (list : List Setting) (env : Environment) (name : String) :
    list.foldl unset env name = if name ∈ list.map Setting.name then none else env name := by
  induction list generalizing env with
  | nil => simp
  | cons setting list ih =>
      rw [List.foldl_cons, ih, unset, List.map_cons]
      by_cases hname : name = setting.name <;> simp [hname]

theorem Suits.unset (h : env.Suits other) (setting : Setting) : (env.unset setting).Suits other := by
  intro text htext
  rw [unset_name] at htext
  split at htext
  · cases htext
  · exact h text htext

end Environment

namespace Settings

/-- A value that was chosen among what the command line gives, what the variable is read as, and the
default, in this order. -/
inductive IsChosen {α : Type} (given : Option α) (held : Option String)
    (read : String → Except Fault α) (default value : α) : Prop where
  | given : given = some value → IsChosen given held read default value
  | held {text : String} : given = none → held = some text → read text = .ok value →
    IsChosen given held read default value
  | default : given = none → held = none → value = default → IsChosen given held read default value

/-- Settings each of which was chosen in this way. -/
structure AreChosen (settings : Settings) (arguments : Arguments) (env : Environment) : Prop where
  listenerAddress : IsChosen arguments.listenerAddress (env Environment.listenerAddress) .ok
    default.listenerAddress settings.listenerAddress
  connectTimeout : IsChosen arguments.connectTimeout (env Environment.connectTimeout) readTimeout
    default.connectTimeoutSeconds settings.connectTimeoutSeconds
  endpointPolicy : IsChosen arguments.endpointMode (env Environment.endpointPolicy)
    EndpointMode.parse default.endpointMode settings.endpointMode
  clusterDomain : IsChosen arguments.clusterDomain (env Environment.clusterDomain) .ok
    default.clusterDomain settings.clusterDomain

section Reading

variable {α : Type} {held : Option String} {read : String → Except Fault α} {default : α}

/-- Any variable may hold what text settings are read from. -/
theorem readOr_ok (held : Option String) (default : String) :
    readOr held .ok default = .ok (held.getD default) := by
  cases held <;> rfl

/-- What is chosen where the command line gives nothing is what the environment is read as. -/
theorem isChosen_iff {given : Option α} {found value : α}
    (hread : readOr held read default = .ok found) :
    IsChosen given held read default value ↔ given.getD found = value := by
  cases given with
  | some chosen =>
      constructor
      · rintro (⟨⟨⟩⟩ | ⟨⟨⟩⟩ | ⟨⟨⟩⟩)
        rfl
      · rintro rfl
        exact .given rfl
  | none =>
      cases held with
      | none =>
          cases hread
          constructor
          · rintro (⟨⟨⟩⟩ | ⟨-, ⟨⟩⟩ | ⟨-, -, rfl⟩)
            rfl
          · rintro rfl
            exact .default rfl rfl rfl
      | some text =>
          constructor
          · rintro (⟨⟨⟩⟩ | ⟨-, ⟨⟩, hvalue⟩ | ⟨-, ⟨⟩⟩)
            exact Except.ok.inj (hread.symm.trans hvalue)
          · rintro rfl
            exact .held rfl rfl hread

end Reading

theorem validate_eq_ok_iff {settings : Settings} :
    settings.validate = .ok () ↔ settings.problems = [] := by
  rw [validate, settingsFault]
  split <;> simp [*]

theorem problems_eq_nil_iff {settings : Settings} : settings.problems = [] ↔
    settings.clusterDomain ≠ "" ∧ isValidTimeout settings.connectTimeoutSeconds ∧
      (Address.parse? settings.listenerAddress).isSome := by
  simp [problems, Option.isSome_iff_ne_none]

/-- Every default passes its own check. -/
theorem problems_default : default.problems = [] := by
  decide

end Settings

theorem Setting.forall_iff {P : Setting → Prop} : (∀ setting, P setting) ↔
    P .listenerAddress ∧ P .connectTimeout ∧ P .endpointPolicy ∧ P .clusterDomain :=
  ⟨fun h => ⟨h _, h _, h _, h _⟩, fun ⟨haddress, htimeout, hmode, hdomain⟩ setting => by
    cases setting <;> assumption⟩

/-- An environment suits every setting when it is read without a fault and none of what it gives is a
problem. -/
theorem Environment.forall_suits_iff {env : Environment} : (∀ setting, env.Suits setting) ↔
    (Address.parse? ((env Setting.listenerAddress.name).getD
      Settings.default.listenerAddress)).isSome ∧
    (∃ seconds, Settings.readOr (env Setting.connectTimeout.name) Settings.readTimeout
      Settings.default.connectTimeoutSeconds = .ok seconds ∧ isValidTimeout seconds) ∧
    (∃ mode, Settings.readOr (env Setting.endpointPolicy.name) EndpointMode.parse
      Settings.default.endpointMode = .ok mode) ∧
    (env Setting.clusterDomain.name).getD Settings.default.clusterDomain ≠ "" := by
  obtain ⟨hdomain, htimeout, haddress⟩ := Settings.problems_eq_nil_iff.1 Settings.problems_default
  refine Setting.forall_iff.trans (and_congr ?_ (and_congr ?_ (and_congr ?_ ?_)))
  · cases hheld : env Setting.listenerAddress.name <;> simp [Suits, Setting.Takes, hheld, haddress]
  · cases hheld : env Setting.connectTimeout.name <;>
      simp [Suits, Setting.Takes, Settings.readOr, hheld, htimeout]
  · cases hheld : env Setting.endpointPolicy.name <;>
      simp [Suits, Setting.Takes, Settings.readOr, hheld]
  · cases hheld : env Setting.clusterDomain.name <;> simp [Suits, Setting.Takes, hheld, hdomain]

namespace Arguments

variable {arguments : Arguments} {env env' : Environment} {setting : Setting}

/-- Whether the command line gives the setting. -/
def gives (arguments : Arguments) : Setting → Bool
  | .listenerAddress => arguments.listenerAddress.isSome
  | .connectTimeout => arguments.connectTimeout.isSome
  | .endpointPolicy => arguments.endpointMode.isSome
  | .clusterDomain => arguments.clusterDomain.isSome

/-- The settings with those that the command line gives in their places. -/
def applyTo (arguments : Arguments) (settings : Settings) : Settings where
  listenerAddress := arguments.listenerAddress.getD settings.listenerAddress
  connectTimeoutSeconds := arguments.connectTimeout.getD settings.connectTimeoutSeconds
  endpointMode := arguments.endpointMode.getD settings.endpointMode
  clusterDomain := arguments.clusterDomain.getD settings.clusterDomain

/-- Checks settings, applies the command line to them and checks them again. -/
def applyChecked (arguments : Arguments) (settings : Settings) : Except Fault Settings := do
  settings.validate
  (arguments.applyTo settings).validate
  return arguments.applyTo settings

theorem settings_eq (arguments : Arguments) (env : Environment) : arguments.settings env = (do
    let timeout ← Settings.readOr (env Setting.connectTimeout.name) Settings.readTimeout
      Settings.default.connectTimeoutSeconds
    let mode ← Settings.readOr (env Setting.endpointPolicy.name) EndpointMode.parse
      Settings.default.endpointMode
    arguments.applyChecked ⟨
      (env Setting.listenerAddress.name).getD Settings.default.listenerAddress, timeout, mode,
      (env Setting.clusterDomain.name).getD Settings.default.clusterDomain⟩) := by
  rw [settings, Settings.ofEnvironment]
  simp only [bind_assoc, pure_bind]
  rfl

/-- Settings that the command line makes the same are the same to it if they have the same
problems. -/
theorem applyChecked_congr {settings settings' : Settings}
    (hproblems : settings.problems = settings'.problems)
    (happly : arguments.applyTo settings = arguments.applyTo settings') :
    arguments.applyChecked settings = arguments.applyChecked settings' := by
  unfold applyChecked Settings.validate
  rw [hproblems, happly]

/-- Where the command line gives a setting, a variable that suits it may as well not be set. -/
theorem settings_unset (hgives : arguments.gives setting) (hsuits : env.Suits setting) :
    arguments.settings (env.unset setting) = arguments.settings env := by
  rw [settings_eq, settings_eq]
  simp only [Environment.unset_name]
  obtain ⟨hdomain, htimeout, haddress⟩ := Settings.problems_eq_nil_iff.1 Settings.problems_default
  -- The option stands in for the variable; what is left to show is that neither what the variable
  -- holds nor the default is a problem.
  cases setting with
  | listenerAddress =>
      simp only [reduceCtorEq, if_true, if_false]
      cases hheld : env Setting.listenerAddress.name with
      | none => rfl
      | some text =>
          have htakes : (Address.parse? text).isSome := hsuits text hheld
          refine bind_congr fun timeout => bind_congr fun mode => applyChecked_congr ?_ ?_
          · simp [Settings.problems, haddress, htakes]
          · obtain ⟨address, hgiven⟩ := Option.isSome_iff_exists.1 hgives
            simp [applyTo, hgiven]
  | connectTimeout =>
      simp only [reduceCtorEq, if_true, if_false]
      cases hheld : env Setting.connectTimeout.name with
      | none => rfl
      | some text =>
          obtain ⟨seconds, hread, hvalid⟩ := hsuits text hheld
          rw [Settings.readOr, Settings.readOr, hread, ok_bind, ok_bind]
          refine bind_congr fun mode => applyChecked_congr ?_ ?_
          · simp [Settings.problems, htimeout, hvalid]
          · obtain ⟨timeout, hgiven⟩ := Option.isSome_iff_exists.1 hgives
            simp [applyTo, hgiven]
  | endpointPolicy =>
      simp only [reduceCtorEq, if_true, if_false]
      cases hheld : env Setting.endpointPolicy.name with
      | none => rfl
      | some text =>
          obtain ⟨mode, hread⟩ := hsuits text hheld
          refine bind_congr fun timeout => ?_
          rw [Settings.readOr, Settings.readOr, hread, ok_bind, ok_bind]
          refine applyChecked_congr rfl ?_
          obtain ⟨given, hgiven⟩ := Option.isSome_iff_exists.1 hgives
          simp [applyTo, hgiven]
  | clusterDomain =>
      simp only [reduceCtorEq, if_true, if_false]
      cases hheld : env Setting.clusterDomain.name with
      | none => rfl
      | some text =>
          have htakes : text ≠ "" := hsuits text hheld
          refine bind_congr fun timeout => bind_congr fun mode => applyChecked_congr ?_ ?_
          · simp [Settings.problems, hdomain, htakes]
          · obtain ⟨domain, hgiven⟩ := Option.isSome_iff_exists.1 hgives
            simp [applyTo, hgiven]

theorem settings_foldl_unset (list : List Setting)
    (h : ∀ setting ∈ list, arguments.gives setting ∧ env.Suits setting) :
    arguments.settings (list.foldl Environment.unset env) = arguments.settings env := by
  induction list generalizing env with
  | nil => rfl
  | cons setting list ih =>
      obtain ⟨hgives, hsuits⟩ := h setting List.mem_cons_self
      rw [List.foldl_cons, ih, settings_unset hgives hsuits]
      intro other hother
      obtain ⟨hother, hholds⟩ := h other (List.mem_cons_of_mem setting hother)
      exact ⟨hother, hholds.unset setting⟩

/-- Environments that differ only in variables whose settings the command line gives. -/
def DifferWithin (arguments : Arguments) (env env' : Environment) : Prop :=
  ∀ name, (∀ setting, arguments.gives setting → name ≠ setting.name) → env name = env' name

/-- What it is for the command line to override the environment: the variables of the settings that
it gives are all the same to it, and what comes of the others and the defaults passes the check. -/
structure Overrides (arguments : Arguments) (env env' : Environment) : Prop where
  same : arguments.settings env = arguments.settings env'
  areChosen : ∀ settings, arguments.settings env = .ok settings →
    settings.AreChosen arguments env ∧ settings.validate = .ok ()

/-- Without the variables of the settings that the command line gives, such environments are one. -/
theorem DifferWithin.foldl_unset_eq (h : arguments.DifferWithin env env') :
    (Setting.all.filter arguments.gives).foldl Environment.unset env =
      (Setting.all.filter arguments.gives).foldl Environment.unset env' := by
  funext name
  rw [Environment.foldl_unset, Environment.foldl_unset]
  split
  · rfl
  · rename_i hname
    apply h
    rintro setting hgives rfl
    exact hname (List.mem_map_of_mem (List.mem_filter.2 ⟨setting.mem_all, hgives⟩))

theorem settings_eq_of_differWithin (hdiffer : arguments.DifferWithin env env')
    (hsuits : ∀ setting, arguments.gives setting → env.Suits setting ∧ env'.Suits setting) :
    arguments.settings env = arguments.settings env' := by
  have hgiven : ∀ setting ∈ Setting.all.filter arguments.gives, arguments.gives setting :=
    fun setting hsetting => (List.mem_filter.1 hsetting).2
  calc arguments.settings env
      = arguments.settings ((Setting.all.filter arguments.gives).foldl Environment.unset env) :=
        (settings_foldl_unset _ fun setting hsetting =>
          ⟨hgiven setting hsetting, (hsuits setting (hgiven setting hsetting)).1⟩).symm
    _ = arguments.settings ((Setting.all.filter arguments.gives).foldl Environment.unset env') := by
        rw [hdiffer.foldl_unset_eq]
    _ = arguments.settings env' :=
        settings_foldl_unset _ fun setting hsetting =>
          ⟨hgiven setting hsetting, (hsuits setting (hgiven setting hsetting)).2⟩

theorem applyChecked_eq_ok_iff {before settings : Settings} :
    arguments.applyChecked before = .ok settings ↔
      before.problems = [] ∧ arguments.applyTo before = settings ∧ settings.validate = .ok () := by
  simp only [applyChecked, bind_eq_ok, pure_eq_ok, ← Settings.validate_eq_ok_iff]
  constructor
  · rintro ⟨_, hbefore, _, hafter, rfl⟩
    exact ⟨hbefore, rfl, hafter⟩
  · rintro ⟨hbefore, rfl, hafter⟩
    exact ⟨_, hbefore, _, hafter, rfl⟩

/-- The command line and an environment give settings exactly when every variable suits its setting
and the settings chosen from both pass the check. -/
theorem settings_eq_ok_iff {settings : Settings} : arguments.settings env = .ok settings ↔
    (∀ setting, env.Suits setting) ∧ settings.AreChosen arguments env ∧
      settings.validate = .ok () := by
  simp only [settings_eq, bind_eq_ok, applyChecked_eq_ok_iff, Settings.problems_eq_nil_iff]
  constructor
  · rintro ⟨timeout, htimeout, mode, hmode, ⟨hdomain, hvalid, haddress⟩, rfl, hvalidate⟩
    refine ⟨?_, ⟨?_, ?_, ?_, ?_⟩, hvalidate⟩
    · exact Environment.forall_suits_iff.2 ⟨haddress, ⟨_, htimeout, hvalid⟩, ⟨_, hmode⟩, hdomain⟩
    · exact (Settings.isChosen_iff (Settings.readOr_ok _ _)).2 rfl
    · exact (Settings.isChosen_iff htimeout).2 rfl
    · exact (Settings.isChosen_iff hmode).2 rfl
    · exact (Settings.isChosen_iff (Settings.readOr_ok _ _)).2 rfl
  · rintro ⟨hsuits, hchosen, hvalidate⟩
    obtain ⟨haddress, ⟨timeout, htimeout, hvalid⟩, ⟨mode, hmode⟩, hdomain⟩ :=
      Environment.forall_suits_iff.1 hsuits
    refine ⟨timeout, htimeout, mode, hmode, ⟨hdomain, hvalid, haddress⟩, ?_, hvalidate⟩
    cases settings
    rw [applyTo, Settings.mk.injEq]
    exact ⟨(Settings.isChosen_iff (Settings.readOr_ok _ _)).1 hchosen.listenerAddress,
      (Settings.isChosen_iff htimeout).1 hchosen.connectTimeout,
      (Settings.isChosen_iff hmode).1 hchosen.endpointPolicy,
      (Settings.isChosen_iff (Settings.readOr_ok _ _)).1 hchosen.clusterDomain⟩

/-- The command line overrides variables that suit the settings that it gives. -/
theorem overrides_of_suits (hdiffer : arguments.DifferWithin env env')
    (hsuits : ∀ setting, arguments.gives setting → env.Suits setting ∧ env'.Suits setting) :
    arguments.Overrides env env' where
  same := settings_eq_of_differWithin hdiffer hsuits
  areChosen _ h := (settings_eq_ok_iff.1 h).2

end Arguments

namespace Sample

/-- A command line that gives a connect timeout of ten seconds. -/
def timed : Arguments :=
  ⟨"edge", "infra", ["edge.yaml"], "-", false, none, some 10, none, none, none⟩

/-- An environment in which no variable but that of the connect timeout may be set. -/
def timeoutOnly (held : Option String) : Environment :=
  fun name => if name = Environment.connectTimeout then held else none

theorem differWithin_timeoutOnly (held held' : Option String) :
    timed.DifferWithin (timeoutOnly held) (timeoutOnly held') := by
  intro name hname
  have hother : name ≠ Environment.connectTimeout := hname .connectTimeout rfl
  rw [timeoutOnly, timeoutOnly, if_neg hother, if_neg hother]

end Sample

namespace Arguments

theorem overrides_of_timed : Sample.timed.DifferWithin (Sample.timeoutOnly (some " 30 "))
      (Sample.timeoutOnly none) ∧
    (∀ setting, Sample.timed.gives setting →
      (Sample.timeoutOnly (some " 30 ")).Suits setting ∧
        (Sample.timeoutOnly none).Suits setting) ∧
    Sample.timed.Overrides (Sample.timeoutOnly (some " 30 ")) (Sample.timeoutOnly none) := by
  have hdiffer := Sample.differWithin_timeoutOnly (some " 30 ") none
  have hsuits : ∀ setting, Sample.timed.gives setting →
      (Sample.timeoutOnly (some " 30 ")).Suits setting ∧
        (Sample.timeoutOnly none).Suits setting := by
    intro setting hgives
    cases setting with
    | connectTimeout =>
        constructor
        · rintro _ ⟨⟩
          exact ⟨30, by decide, by decide⟩
        · rintro _ ⟨⟩
    | _ => exact absurd hgives (by decide)
  exact ⟨hdiffer, hsuits, overrides_of_suits hdiffer hsuits⟩

/-- A variable that holds no number is a fault even where the command line gives the timeout. -/
theorem not_overrides_of_unreadable : Sample.timed.DifferWithin
      (Sample.timeoutOnly (some "soon")) (Sample.timeoutOnly none) ∧
    ¬ Sample.timed.Overrides (Sample.timeoutOnly (some "soon")) (Sample.timeoutOnly none) := by
  refine ⟨Sample.differWithin_timeoutOnly _ _, fun h => ?_⟩
  have hfault : Sample.timed.settings (Sample.timeoutOnly (some "soon")) = .error (.settings
      "Invalid GATEWAY_XDS_CONNECT_TIMEOUT_SECONDS: invalid digit found in string") := by
    rfl
  have hbare : Sample.timed.settings (Sample.timeoutOnly none) =
      .ok { Settings.default with connectTimeoutSeconds := 10 } := by
    rfl
  have hsame := h.same
  rw [hfault, hbare] at hsame
  cases hsame

end Arguments

end GatewayCompiler
