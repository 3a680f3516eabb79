import Stencil.CommandLine.Run
import Stencil.Proofs.Result
import Stencil.Proofs.Settings.Crash

/-!
How a command that renders ends. What can go wrong is told in the order in which it is looked at, and the
first thing that does go wrong decides the exit code (`CommandLine.Ends`). There is no output but that of
a render that succeeds.
-/
namespace Stencil

namespace Bindings

variable {b : Bindings} {e : Error} {assignments : List Text}

-- Of several assignments that are wrong the leftmost is reported.
theorem assign_eq_error_iff : b.assign assignments = .error e ↔ ∃ before a after,
    assignments = before ++ a :: after ∧ (∀ x ∈ before, ∃ entry, parseAssignment x = .ok entry) ∧
      parseAssignment a = .error e := by
  induction assignments generalizing b
  case nil => simp [assign]
  case cons x rest hi =>
    rw [assign, exists_first_cons_iff]
    cases hx : parseAssignment x
    case error e' => simp
    case ok entry => simp [hi]

end Bindings

theorem Fault.exitCode_pos (f : Fault) : 0 < f.exitCode := by
  unfold exitCode
  split <;> decide

namespace CommandLine

variable {leeway : Settings.Leeway} {tree : FileTree} {env : Environment} {o : Options} {arguments : List Text}
variable {b : Bindings} {f : Fault} {s : Settings} {code : Nat} {out : Text}

-- The bindings that the assignments are added to: those of a file that holds an object, or none.
inductive Starts (tree : FileTree) (o : Options) : Bindings → Prop
  | empty : o.bindings? = none → Starts tree o .empty
  | object {p : Path} {t : Text} {members : List (Text × Json)} :
    o.bindings? = some p → tree.readText p = .ok t → Json.parse? t = some (.object members) →
    Starts tree o ⟨members⟩

-- The first thing that is wrong with the bindings.
inductive Misbinds (tree : FileTree) (o : Options) : Fault → Prop
  | unreadable {p : Path} {failure : FileTree.Failure} :
    o.bindings? = some p → tree.readText p = .error failure → Misbinds tree o (.io failure)
  | malformed {p : Path} {t : Text} :
    o.bindings? = some p → tree.readText p = .ok t → Json.parse? t = none →
    Misbinds tree o (.json (Json.diagnose? t))
  | notObject {p : Path} {t : Text} {value : Json} :
    o.bindings? = some p → tree.readText p = .ok t → Json.parse? t = some value →
    (∀ members, value ≠ .object members) → Misbinds tree o (.view (.badBindings .notObject))
  | assignment {b : Bindings} {before after : List Text} {a : Text} {e : Bindings.Error} :
    Starts tree o b → o.assignments = before ++ a :: after →
    (∀ x ∈ before, ∃ entry, Bindings.parseAssignment x = .ok entry) →
    Bindings.parseAssignment a = .error e → Misbinds tree o (.view (.badBindings e))

theorem mapError_ok {ε ε' α : Type} (f : ε → ε') (a : α) : (Except.ok a : Except ε α).mapError f = .ok a :=
  rfl

theorem mapError_error {ε ε' α : Type} (f : ε → ε') (e : ε) :
    (Except.error e : Except ε α).mapError f = .error (f e) :=
  rfl

theorem mapError_eq_ok_iff {ε ε' α : Type} {f : ε → ε'} {x : Except ε α} {a : α} :
    x.mapError f = .ok a ↔ x = .ok a := by
  cases x <;> simp [mapError_ok, mapError_error]

theorem mapError_eq_error_iff {ε ε' α : Type} {f : ε → ε'} {x : Except ε α} {e' : ε'} :
    x.mapError f = .error e' ↔ ∃ e, x = .error e ∧ f e = e' := by
  cases x <;> simp [mapError_ok, mapError_error]

theorem loadBindings_of_starts (h : Starts tree o b) :
    loadBindings tree o = (b.assign o.assignments).mapError (.view <| .badBindings ·) := by
  cases h
  case empty h => simp only [loadBindings, h, bind, Except.bind]
  case object h hr hp =>
    simp only [loadBindings, h, hr, hp, bind, Except.bind, mapError_ok, Bindings.ofJson]

theorem loadBindings_eq_error_of_misbinds (h : Misbinds tree o f) : loadBindings tree o = .error f := by
  cases h
  case unreadable h hr => simp only [loadBindings, h, hr, bind, Except.bind, mapError_error]
  case malformed h hr hp => simp only [loadBindings, h, hr, hp, bind, Except.bind, mapError_ok]
  case notObject value h hr hp hv =>
    have hj : Bindings.ofJson value = .error .notObject := by
      cases value <;> first | rfl | exact absurd rfl (hv _)
    simp only [loadBindings, h, hr, hp, hj, bind, Except.bind, mapError_ok, mapError_error]
  case assignment hs ha hb he =>
    rw [loadBindings_of_starts hs, Bindings.assign_eq_error_iff.mpr ⟨_, _, _, ha, hb, he⟩]
    rfl

theorem starts_or_misbinds (tree : FileTree) (o : Options) : (∃ b, Starts tree o b) ∨ ∃ f, Misbinds tree o f := by
  cases h : o.bindings?
  case none => exact .inl ⟨_, .empty h⟩
  case some p =>
    cases hr : tree.readText p
    case error failure => exact .inr ⟨_, .unreadable h hr⟩
    case ok t =>
      cases hp : Json.parse? t
      case none => exact .inr ⟨_, .malformed h hr hp⟩
      case some value =>
        by_cases hv : ∃ members, value = .object members
        case pos =>
          obtain ⟨members, rfl⟩ := hv
          exact .inl ⟨_, .object h hr hp⟩
        case neg => exact .inr ⟨_, .notObject h hr hp <| not_exists.mp hv⟩

theorem loadBindings_eq_error_iff : loadBindings tree o = .error f ↔ Misbinds tree o f where
  mp h := by
    obtain ⟨b, hs⟩ | ⟨f', hm⟩ := starts_or_misbinds tree o
    case inl =>
      rw [loadBindings_of_starts hs] at h
      cases ha : b.assign o.assignments
      case error e =>
        obtain ⟨before, a, after, ho, hb, he⟩ := Bindings.assign_eq_error_iff.mp ha
        rw [ha] at h
        exact Except.error.inj h ▸ .assignment hs ho hb he
      case ok =>
        rw [ha] at h
        exact nomatch h
    case inr => exact Except.error.inj ((loadBindings_eq_error_of_misbinds hm).symm.trans h) ▸ hm
  mpr := loadBindings_eq_error_of_misbinds

-- Settings and log filter are there, and these are the settings with what the options override. A file
-- may set the variable of the filter like any other.
def Configures (leeway : Settings.Leeway) (tree : FileTree) (env : Environment) (o : Options) (s : Settings) :
    Prop :=
  ∃ set base filter, env.withFile? tree = some set ∧ Settings.load tree env o.config? leeway = .ok base ∧
    Log.Filter.choose set base.logging.level = .ok filter ∧
    s = { base with views := { base.views with
      path := o.views?.getD base.views.path
      extension := o.extension?.getD base.views.extension } }

-- The view that is asked for, rendered with settings and bindings that are there.
def Renders (leeway : Settings.Leeway) (tree : FileTree) (env : Environment) (o : Options) (out : Text) : Prop :=
  ∃ s b, Configures leeway tree env o s ∧ loadBindings tree o = .ok b ∧
    ((View.Renderer.ofSettings s).render tree o.name b).result = .ok out

-- With which exit code and which output a command ends. What is looked at first comes first. A crash is
-- apart from all other ends: by a file of assignments that gives a value with a NUL to a variable, or by a log
-- filter that is cut inside of a character.
inductive Ends (leeway : Settings.Leeway) (tree : FileTree) (env : Environment) (o : Options) :
    Nat → Text → Prop
  | fileCrashes : ¬ env.Settable tree → Ends leeway tree env o 101 []
  | filterCrashes {set : Environment} {base : Settings} {e : Log.Filter.Error} :
    env.withFile? tree = some set → Settings.load tree env o.config? leeway = .ok base →
    Log.Filter.choose set base.logging.level = .error e → e.reason = .crash → Ends leeway tree env o 101 []
  | noSettings {p : Settings.Problem} :
    env.Settable tree → Settings.load tree env o.config? leeway = .error p → Ends leeway tree env o 1 []
  | noFilter {set : Environment} {base : Settings} {e : Log.Filter.Error} :
    env.withFile? tree = some set → Settings.load tree env o.config? leeway = .ok base →
    Log.Filter.choose set base.logging.level = .error e → e.reason ≠ .crash → Ends leeway tree env o 1 []
  | misbinds {s : Settings} {f : Fault} :
    Configures leeway tree env o s → Misbinds tree o f → Ends leeway tree env o f.exitCode []
  | fails {s : Settings} {b : Bindings} {e : View.Error} :
    Configures leeway tree env o s → loadBindings tree o = .ok b →
    ((View.Renderer.ofSettings s).render tree o.name b).result = .error e →
    Ends leeway tree env o (Fault.view e).exitCode []
  | renders {out : Text} : Renders leeway tree env o out → Ends leeway tree env o 0 out

variable {set : Environment}

theorem Setup.load_of_settings_eq_error {p : Settings.Problem}
    (h : Settings.load tree env o.config? leeway = .error p) :
    Setup.load tree env o leeway = .error (.settings p) := by
  rw [Settings.load] at h
  rw [Setup.load]
  cases hset : env.withFile? tree
  case none =>
    rw [hset] at h
    obtain rfl := Except.error.inj h
    rfl
  case some set =>
    rw [hset] at h
    simp only [h, mapError_error, bind, Except.bind]

theorem Setup.load_of_settings_eq_ok {base : Settings} (hset : env.withFile? tree = some set)
    (h : Settings.load tree env o.config? leeway = .ok base) :
    Setup.load tree env o leeway = match Log.Filter.choose set base.logging.level with
      | .error e => .error (.filter e)
      | .ok filter => .ok ⟨o.override base, filter⟩ := by
  rw [Settings.load, hset] at h
  rw [Setup.load, hset]
  simp only [h, mapError_ok, bind, Except.bind]
  cases Log.Filter.choose set base.logging.level <;> rfl

theorem Options.run_of_load_eq_error (h : Setup.load tree env o leeway = .error f) :
    o.run tree env leeway = .ofMissingSetup f := by
  unfold run
  rw [h]

theorem Options.run_of_load_eq_ok {setup : Setup} (h : Setup.load tree env o leeway = .ok setup) :
    o.run tree env leeway = .ofRender setup o (render tree o setup.settings) := by
  unfold run
  rw [h]

theorem Configures.run_eq (h : Configures leeway tree env o s) :
    ∃ filter, o.run tree env leeway = .ofRender ⟨s, filter⟩ o (render tree o s) := by
  obtain ⟨set, base, filter, hset, hs, hf, rfl⟩ := h
  have hl := Setup.load_of_settings_eq_ok hset hs
  rw [hf] at hl
  exact ⟨filter, Options.run_of_load_eq_ok hl⟩

theorem Result.ofMissingSetup_of_isCrash (h : f.isCrash) : ofMissingSetup f = crash :=
  if_pos h

theorem Result.ofMissingSetup_of_not_isCrash (h : ¬ f.isCrash) :
    (ofMissingSetup f).exitCode = 1 ∧ (ofMissingSetup f).output = [] := by
  unfold ofMissingSetup
  rw [if_neg h]
  exact ⟨rfl, rfl⟩

theorem Result.ofRender_of_error {setup : Setup} {x : Recorded Fault Text} (h : x.result = .error f) :
    (ofRender setup o x).exitCode = f.exitCode ∧ (ofRender setup o x).output = [] := by
  simp only [ofRender, h, and_self]

theorem Result.ofRender_of_ok {setup : Setup} {x : Recorded Fault Text} (h : x.result = .ok out) :
    (ofRender setup o x).exitCode = 0 ∧ (ofRender setup o x).output = out := by
  simp only [ofRender, h, and_self]

theorem render_of_misbinds (h : Misbinds tree o f) (s : Settings) : (render tree o s).result = .error f := by
  rw [render, loadBindings_eq_error_of_misbinds h]
  rfl

theorem render_of_loadBindings (h : loadBindings tree o = .ok b) (s : Settings) : (render tree o s).result =
    ((View.Renderer.ofSettings s).render tree o.name b).result.mapError .view := by
  rw [render, h]
  rfl

theorem Ends.run_eq (h : Ends leeway tree env o code out) :
    (o.run tree env leeway).exitCode = code ∧ (o.run tree env leeway).output = out := by
  cases h
  case fileCrashes hs =>
    have hl : Setup.load tree env o leeway = .error (.settings .crash) :=
      Setup.load_of_settings_eq_error <| Settings.load_eq_crash_iff.mpr hs
    rw [Options.run_of_load_eq_error hl, Result.ofMissingSetup_of_isCrash rfl]
    exact ⟨rfl, rfl⟩
  case filterCrashes e hset hs hf hc =>
    have hl := Setup.load_of_settings_eq_ok hset hs
    rw [hf] at hl
    have hf : (Fault.filter e).isCrash := decide_eq_true hc
    rw [Options.run_of_load_eq_error hl, Result.ofMissingSetup_of_isCrash hf]
    exact ⟨rfl, rfl⟩
  case noSettings p hset hs =>
    have hp : p ≠ .crash := fun hp => Settings.load_eq_crash_iff.mp (hp ▸ hs) hset
    rw [Options.run_of_load_eq_error <| Setup.load_of_settings_eq_error hs]
    exact Result.ofMissingSetup_of_not_isCrash <| by simpa [Fault.isCrash] using hp
  case noFilter e hset hs hf hc =>
    have hl := Setup.load_of_settings_eq_ok hset hs
    rw [hf] at hl
    rw [Options.run_of_load_eq_error hl]
    exact Result.ofMissingSetup_of_not_isCrash <| by simpa [Fault.isCrash] using hc
  case misbinds s f hc hm =>
    obtain ⟨filter, hr⟩ := hc.run_eq
    exact hr ▸ Result.ofRender_of_error (render_of_misbinds hm s)
  case fails s b e hc hb he =>
    obtain ⟨filter, hr⟩ := hc.run_eq
    exact hr ▸ Result.ofRender_of_error (by rw [render_of_loadBindings hb, he]; rfl)
  case renders h =>
    obtain ⟨s, b, hc, hb, ho⟩ := h
    obtain ⟨filter, hr⟩ := hc.run_eq
    exact hr ▸ Result.ofRender_of_ok (by rw [render_of_loadBindings hb, ho]; rfl)

theorem exists_ends (leeway : Settings.Leeway) (tree : FileTree) (env : Environment) (o : Options) :
    ∃ code out, Ends leeway tree env o code out := by
  by_cases hset : env.Settable tree
  case neg => exact ⟨_, _, .fileCrashes hset⟩
  case pos =>
    cases hs : Settings.load tree env o.config? leeway
    case error p => exact ⟨_, _, .noSettings hset hs⟩
    case ok base =>
      obtain ⟨set, hset⟩ := Environment.exists_withFile?_eq_some_iff.mpr hset
      cases hf : Log.Filter.choose set base.logging.level
      case error e =>
        by_cases hc : e.reason = .crash
        case pos => exact ⟨_, _, .filterCrashes hset hs hf hc⟩
        case neg => exact ⟨_, _, .noFilter hset hs hf hc⟩
      case ok filter =>
        have hc : Configures leeway tree env o (o.override base) := ⟨set, base, filter, hset, hs, hf, rfl⟩
        cases hb : loadBindings tree o
        case error f => exact ⟨_, _, .misbinds hc <| loadBindings_eq_error_iff.mp hb⟩
        case ok b =>
          cases hr : ((View.Renderer.ofSettings (o.override base)).render tree o.name b).result
          case error e => exact ⟨_, _, .fails hc hb hr⟩
          case ok out => exact ⟨_, _, .renders ⟨_, b, hc, hb, hr⟩⟩

theorem ends_iff : Ends leeway tree env o code out ↔
    (o.run tree env leeway).exitCode = code ∧ (o.run tree env leeway).output = out where
  mp := Ends.run_eq
  mpr := by
    rintro ⟨rfl, rfl⟩
    obtain ⟨code, out, h⟩ := exists_ends leeway tree env o
    obtain ⟨rfl, rfl⟩ := h.run_eq
    exact h

theorem Ends.renders_of_zero (h : Ends leeway tree env o 0 out) : Renders leeway tree env o out := by
  generalize hc : 0 = code at h
  cases h
  case renders h => exact h
  case misbinds f _ _ => exact absurd hc <| Nat.ne_of_lt f.exitCode_pos
  case fails e _ _ _ => exact absurd hc <| Nat.ne_of_lt (Fault.view e).exitCode_pos
  all_goals exact nomatch hc

theorem run_of_ofArguments (h : Request.ofArguments env arguments = .render o) (leeway : Settings.Leeway) :
    run tree env arguments leeway = o.run tree env leeway := by
  rw [run, h]

theorem run_ends_iff (h : Request.ofArguments env arguments = .render o) :
    (∀ code out, (run tree env arguments leeway).exitCode = code ∧
        (run tree env arguments leeway).output = out ↔ Ends leeway tree env o code out) ∧
    ((run tree env arguments leeway).exitCode = 0 ↔
      Renders leeway tree env o (run tree env arguments leeway).output) := by
  rw [run_of_ofArguments h]
  refine ⟨fun code out => ends_iff.symm, fun h0 => ?_, fun h => (Ends.renders h).run_eq.left⟩
  exact Ends.renders_of_zero <| ends_iff.mpr ⟨h0, rfl⟩

-- Neither the third assignment nor the view that is missing is looked at once the second is found wrong.
theorem run_ends_iff_leftmost :
    let tree : FileTree := ⟨[], [(["v"], .file (Text.toUtf8 "{}"))]⟩
    let o : Options := ⟨"page", none, none, none, ["a=b=c", " =d", "e"], some ⟨"v"⟩, true⟩
    let arguments : List Text := ["page", "--vars-file", "v", "-Da=b=c", "-D", " =d", "--var=e", "--metrics"]
    Request.ofArguments [] arguments = .render o ∧ Ends .plain tree [] o 65 [] ∧
      (run tree [] arguments).exitCode = 65 ∧ (run tree [] arguments).output = [] := by
  intro tree o arguments
  have h : Request.ofArguments [] arguments = .render o := by decide +kernel
  have hr : (run tree [] arguments).exitCode = 65 ∧ (run tree [] arguments).output = [] := by decide +kernel
  exact ⟨h, ((run_ends_iff h).left 65 []).mp hr, hr⟩

-- Neither a value that cannot be set nor a cut inside of a blank leaves the command with a problem that it reports.
theorem not_forall_exitCode_eq_one :
    (¬ ∀ (leeway : Settings.Leeway) (tree : FileTree) (env : Environment) (arguments : List Text) (o : Options)
        (p : Settings.Problem), Request.ofArguments env arguments = .render o →
      Settings.load tree env o.config? leeway = .error p → (run tree env arguments leeway).exitCode = 1) ∧
    ¬ ∀ (leeway : Settings.Leeway) (tree : FileTree) (env set : Environment) (arguments : List Text) (o : Options)
        (base : Settings) (e : Log.Filter.Error), Request.ofArguments env arguments = .render o →
      env.withFile? tree = some set → Settings.load tree env o.config? leeway = .ok base →
      Log.Filter.choose set base.logging.level = .error e → (run tree env arguments leeway).exitCode = 1 := by
  let o : Options := ⟨"page", none, none, none, [], none, false⟩
  constructor
  case left =>
    intro h
    let tree : FileTree := ⟨[], [([".env"], .file (Text.toUtf8 "A=\x00\n")), (["views"], .folder),
      (["views", "page.html"], .file (Text.toUtf8 "x"))]⟩
    have hc : (run tree [] ["page"]).exitCode = 101 := by decide +kernel
    have h1 := h .plain tree [] ["page"] o .crash (by decide +kernel) (by decide +kernel)
    exact absurd (hc.symm.trans h1) (by decide)
  case right =>
    intro h
    let tree : FileTree := ⟨[], []⟩
    let filter : Text := "\u3000a=info"
    let env : Environment := [("RUST_LOG", filter)]
    have hc : (run tree env ["page"]).exitCode = 101 := by decide +kernel
    have h1 := h .plain tree env env ["page"] o {} ⟨filter, .crash⟩ (by decide +kernel) (by decide +kernel)
      (by decide +kernel) (by decide +kernel)
    exact absurd (hc.symm.trans h1) (by decide)

end CommandLine
end Stencil
