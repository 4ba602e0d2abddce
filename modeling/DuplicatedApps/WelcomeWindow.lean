import DuplicatedApps.App
import DuplicatedApps.SlideTicks

set_option autoImplicit false

namespace DuplicatedApps

open Runs

structure WelcomeApp where
  app : App
  slideshow : Slideshow
  welcome : Nat
  hasLeft : Bool

inductive WelcomeEvent where
  | app (event : AppEvent)
  | timerFires (timer : Timer)
  | swipe (screen page : Nat)
  | willDisplay (screen row : Nat)
  | backSwipeCancelled

def App.showsWelcome (app : App) : Bool := decide (app.topViewController = some .welcome)

def App.installsWelcome (app : App) : AppEvent → Bool
  | .rootTransition .welcome => decide (.welcome ∈ app.transitions)
  | _ => false

namespace WelcomeApp

def launch (width : CGFloat) (app : App) : WelcomeApp :=
  ⟨app, (Slideshow.launched width).step (.viewWillAppear 0), 0, false⟩

def scene (width : CGFloat) (backend : Backend) : WelcomeApp := launch width (App.scene backend)

def lifeCycle (window : WelcomeApp) (after : App) : List LifeCycleEvent :=
  match window.app.showsWelcome, after.showsWelcome with
  | true, false => [.viewWillDisappear window.welcome]
  | false, true => [.viewWillAppear window.welcome]
  | _, _ => []

-- Of a root that is replaced only the screen on top is told that it disappears.
def replacedRoot (window : WelcomeApp) : List LifeCycleEvent :=
  (if window.app.showsWelcome then [.viewWillDisappear window.welcome] else []) ++ [.viewWillAppear (window.welcome + 1)]

def step (icu : WordCharacters) (width : CGFloat) (window : WelcomeApp) : WelcomeEvent → WelcomeApp
  | .app .willConnect => launch width window.app.willConnect
  | .app event =>
      let after := window.app.step icu event
      if window.app.installsWelcome event then
        { app := after
          slideshow := run Slideshow.step window.slideshow window.replacedRoot
          welcome := window.welcome + 1
          hasLeft := false }
      else
        { window with
          app := after
          slideshow := run Slideshow.step window.slideshow (window.lifeCycle after)
          hasLeft := window.hasLeft || !after.showsWelcome }
  | .timerFires timer => { window with slideshow := window.slideshow.step (.timerFires timer) }
  | .swipe screen page => { window with slideshow := window.slideshow.step (.swipe screen page) }
  | .willDisplay screen row => { window with slideshow := window.slideshow.step (.willDisplay screen row) }
  | .backSwipeCancelled =>
      if window.app.viewControllers.dropLast.getLast? = some .welcome ∧ window.app.showsWelcome = false then
        { window with
          slideshow := run Slideshow.step window.slideshow
            [.viewWillAppear window.welcome, .viewWillDisappear window.welcome] }
      else window

end WelcomeApp

def LifeCycleEvent.movesSlides : LifeCycleEvent → Bool
  | .viewWillAppear _ => false
  | .viewWillDisappear _ => false
  | _ => true

namespace Slideshow

structure Stands (slideshow : Slideshow) (shown running : List Nat) (instances : Nat) : Prop where
  owned : slideshow.Owned
  onScreen : slideshow.onScreen = shown
  targets : slideshow.scheduled.map Timer.target = running
  views : ∀ screen, (slideshow.controllers screen).isViewLoaded = true ↔ screen < instances

section Stands

variable (slideshow : Slideshow) (shown running : List Nat) (instances : Nat)

theorem launched_stands (width : CGFloat) : (launched width).Stands [] [] 0 := by
  refine ⟨launched_owned width, rfl, rfl, ?_⟩
  intro screen
  simp [launched, WelcomeViewController.fromNib]

theorem disappear_stands (screen : Nat) (member : screen ∈ shown) (stands : slideshow.Stands shown running instances) :
    (slideshow.step (.viewWillDisappear screen)).Stands (shown.filter (· ≠ screen)) (running.filter (· ≠ screen))
      instances := by
  have present : screen ∈ slideshow.onScreen := by
    rw [stands.onScreen]
    exact member
  have owned := step_owned slideshow (.viewWillDisappear screen) stands.owned
  rw [step, if_pos present] at owned ⊢
  refine ⟨owned, ?_, ?_, ?_⟩
  · rw [disappear_on_screen slideshow screen stands.owned, stands.onScreen]
  · rw [disappear_targets slideshow screen stands.owned, stands.targets]
  · intro other
    rw [← stands.views other]
    rcases disappear_controllers slideshow screen other with same | stopped
    · rw [same]
    · rw [stopped]

theorem first_appear_stands (fresh : instances ∉ shown) (stands : slideshow.Stands shown running instances) :
    (slideshow.step (.viewWillAppear instances)).Stands (instances :: shown) (instances :: running) (instances + 1) := by
  have absent : instances ∉ slideshow.onScreen := by
    rw [stands.onScreen]
    exact fresh
  have unloaded : (slideshow.controllers instances).isViewLoaded = false := by
    rw [← Bool.not_eq_true, stands.views]
    exact Nat.lt_irrefl _
  have owned := step_owned slideshow (.viewWillAppear instances) stands.owned
  have reached : slideshow.step (.viewWillAppear instances) =
      { slideshow.viewDidLoad instances with onScreen := instances :: slideshow.onScreen } := by
    rw [step, if_neg absent, viewWillAppear, loadViewIfNeeded, unloaded]
    rfl
  rw [reached] at owned ⊢
  refine ⟨owned, ?_, ?_, ?_⟩
  · exact congrArg (instances :: ·) stands.onScreen
  · exact congrArg (instances :: ·) stands.targets
  · intro screen
    by_cases same : screen = instances
    · subst same
      simp [viewDidLoad, startAutoScroll, setController]
    · have before := stands.views screen
      simp only [viewDidLoad, startAutoScroll, setController, Function.update_of_ne same, before]
      omega

theorem back_appear_stands (screen : Nat) (hidden : screen ∉ shown) (seen : screen < instances)
    (stands : slideshow.Stands shown running instances) :
    (slideshow.step (.viewWillAppear screen)).Stands (screen :: shown) running instances := by
  have absent : screen ∉ slideshow.onScreen := by
    rw [stands.onScreen]
    exact hidden
  have owned := step_owned slideshow (.viewWillAppear screen) stands.owned
  have reached : slideshow.step (.viewWillAppear screen) = { slideshow with onScreen := screen :: slideshow.onScreen } := by
    rw [step, if_neg absent, viewWillAppear, loadViewIfNeeded, (stands.views screen).mpr seen]
    rfl
  rw [reached] at owned ⊢
  exact ⟨owned, congrArg (screen :: ·) stands.onScreen, stands.targets, stands.views⟩

theorem tell_stands (screen : Nat) (slide : SlideEvent) (stands : slideshow.Stands shown running instances) :
    (slideshow.tell screen slide).Stands shown running instances := by
  refine ⟨tell_owned slideshow screen slide stands.owned, stands.onScreen, stands.targets, ?_⟩
  intro other
  rw [← stands.views other]
  by_cases same : other = screen
  · subst same
    rw [tell_self, (handle_frame _ slide).1]
  · rw [tell_other slideshow screen other slide same]

theorem slides_stand (event : LifeCycleEvent) (slides : event.movesSlides = true) (stands : slideshow.Stands shown running instances) :
    (slideshow.step event).Stands shown running instances := by
  have effect := step_effect slideshow event
  generalize slideshow.step event = after at effect
  cases effect with
  | idle _ silent met => exact stands
  | appeared screen hidden => cases slides
  | disappeared screen visible => cases slides
  | told _ screen slide tells met => exact tell_stands slideshow shown running instances screen slide stands

end Stands

end Slideshow

namespace WelcomeApp

structure Scrolls (window : WelcomeApp) : Prop where
  stands : window.slideshow.Stands (if window.app.showsWelcome then [window.welcome] else [])
    (if window.hasLeft then [] else [window.welcome]) (window.welcome + 1)
  left : window.app.showsWelcome = false → window.hasLeft = true

theorem launch_scrolls (width : CGFloat) (app : App) (shows : app.showsWelcome = true) : (launch width app).Scrolls := by
  have stands := Slideshow.first_appear_stands (Slideshow.launched width) [] [] 0 List.not_mem_nil
    (Slideshow.launched_stands width)
  refine ⟨?_, ?_⟩
  · simpa [launch, shows] using stands
  · intro hidden
    rw [launch] at hidden
    rw [shows] at hidden
    cases hidden

section Steps

variable (icu : WordCharacters) (width : CGFloat) (window : WelcomeApp)

theorem cleared_stands (shows : window.app.showsWelcome = true) (scrolls : window.Scrolls) :
    (window.slideshow.step (.viewWillDisappear window.welcome)).Stands [] [] (window.welcome + 1) := by
  have stands := scrolls.stands
  rw [shows, if_pos rfl] at stands
  have cleared := Slideshow.disappear_stands _ _ _ _ window.welcome List.mem_cons_self stands
  cases left : window.hasLeft with
  | true => simpa [left] using cleared
  | false => simpa [left] using cleared

theorem replaced_stands (scrolls : window.Scrolls) :
    (run Slideshow.step window.slideshow window.replacedRoot).Stands [window.welcome + 1] [window.welcome + 1]
      (window.welcome + 1 + 1) := by
  cases shows : window.app.showsWelcome with
  | true =>
      have cleared := cleared_stands window shows scrolls
      simpa [replacedRoot, shows] using Slideshow.first_appear_stands _ _ _ _ List.not_mem_nil cleared
  | false =>
      have stands := scrolls.stands
      simp only [shows, scrolls.left shows, Bool.false_eq_true, if_false, if_true] at stands
      simpa [replacedRoot, shows] using Slideshow.first_appear_stands _ _ _ _ List.not_mem_nil stands

theorem moved_stands (after : App) (scrolls : window.Scrolls) :
    (run Slideshow.step window.slideshow (window.lifeCycle after)).Stands
      (if after.showsWelcome then [window.welcome] else [])
      (if window.hasLeft || !after.showsWelcome then [] else [window.welcome]) (window.welcome + 1) := by
  have stands := scrolls.stands
  cases shows : window.app.showsWelcome with
  | true =>
      cases showing : after.showsWelcome with
      | true => simpa [lifeCycle, shows, showing] using stands
      | false => simpa [lifeCycle, shows, showing] using cleared_stands window shows scrolls
  | false =>
      simp only [shows, scrolls.left shows, Bool.false_eq_true, if_false, if_true] at stands
      cases showing : after.showsWelcome with
      | true =>
          have back := Slideshow.back_appear_stands _ _ _ _ window.welcome List.not_mem_nil (Nat.lt_succ_self _) stands
          simpa [lifeCycle, shows, showing, scrolls.left shows] using back
      | false => simpa [lifeCycle, shows, showing, scrolls.left shows] using stands

theorem swiped_stands (shows : window.app.showsWelcome = false) (scrolls : window.Scrolls) :
    (run Slideshow.step window.slideshow [.viewWillAppear window.welcome, .viewWillDisappear window.welcome]).Stands [] []
      (window.welcome + 1) := by
  have stands := scrolls.stands
  simp only [shows, scrolls.left shows, Bool.false_eq_true, if_false, if_true] at stands
  have back := Slideshow.back_appear_stands _ _ _ _ window.welcome List.not_mem_nil (Nat.lt_succ_self _) stands
  simpa using Slideshow.disappear_stands _ _ _ _ window.welcome List.mem_cons_self back

theorem installed_shows (event : AppEvent) (installs : window.app.installsWelcome event = true) :
    (window.app.step icu event).showsWelcome = true := by
  cases event with
  | rootTransition controller =>
      cases controller with
      | welcome =>
          have pending : .welcome ∈ window.app.transitions := of_decide_eq_true installs
          simp [App.step, App.rootTransition, pending, App.showsWelcome, App.topViewController]
      | _ => cases installs
  | _ => cases installs

theorem step_warm (event : AppEvent) (warm : event ≠ .willConnect) :
    window.step icu width (.app event) =
      if window.app.installsWelcome event then
        { app := window.app.step icu event
          slideshow := run Slideshow.step window.slideshow window.replacedRoot
          welcome := window.welcome + 1
          hasLeft := false }
      else
        { window with
          app := window.app.step icu event
          slideshow := run Slideshow.step window.slideshow (window.lifeCycle (window.app.step icu event))
          hasLeft := window.hasLeft || !(window.app.step icu event).showsWelcome } := by
  cases event with
  | willConnect => exact absurd rfl warm
  | _ => rfl

theorem navigated_scrolls (event : AppEvent) (warm : event ≠ .willConnect) (scrolls : window.Scrolls) :
    (window.step icu width (.app event)).Scrolls := by
  rw [step_warm icu width window event warm]
  by_cases installs : window.app.installsWelcome event = true
  · rw [if_pos installs]
    have shows := installed_shows icu window event installs
    refine ⟨?_, ?_⟩
    · simpa [shows] using replaced_stands window scrolls
    · intro hidden
      rw [shows] at hidden
      cases hidden
  · rw [if_neg installs]
    refine ⟨moved_stands window _ scrolls, ?_⟩
    intro hidden
    simp only at hidden ⊢
    rw [hidden, Bool.not_false, Bool.or_true]

theorem step_scrolls (event : WelcomeEvent) (scrolls : window.Scrolls) : (window.step icu width event).Scrolls := by
  cases event with
  | app event =>
      by_cases cold : event = .willConnect
      · rw [cold]
        exact launch_scrolls width window.app.willConnect rfl
      · exact navigated_scrolls icu width window event cold scrolls
  | timerFires timer => exact ⟨Slideshow.slides_stand _ _ _ _ (.timerFires timer) rfl scrolls.stands, scrolls.left⟩
  | swipe screen page => exact ⟨Slideshow.slides_stand _ _ _ _ (.swipe screen page) rfl scrolls.stands, scrolls.left⟩
  | willDisplay screen row => exact ⟨Slideshow.slides_stand _ _ _ _ (.willDisplay screen row) rfl scrolls.stands, scrolls.left⟩
  | backSwipeCancelled =>
      by_cases above : window.app.viewControllers.dropLast.getLast? = some .welcome ∧ window.app.showsWelcome = false
      · rw [step, if_pos above]
        refine ⟨?_, scrolls.left⟩
        simpa [above.2, scrolls.left above.2] using swiped_stands window above.2 scrolls
      · rw [step, if_neg above]
        exact scrolls

def asks : WelcomeEvent → List AppEvent
  | .app event => [event]
  | _ => []

theorem step_asks (event : WelcomeEvent) :
    (window.step icu width event).app = run (App.step icu) window.app (asks event) := by
  cases event with
  | app event =>
      by_cases cold : event = .willConnect
      · rw [cold]
        rfl
      · rw [step_warm icu width window event cold]
        by_cases installs : window.app.installsWelcome event = true
        · rw [if_pos installs]
          rfl
        · rw [if_neg installs]
          rfl
  | timerFires timer => rfl
  | swipe screen page => rfl
  | willDisplay screen row => rfl
  | backSwipeCancelled =>
      rw [step]
      split <;> rfl

def SlideshowRuns : Prop := ∃ past, window.slideshow = run Slideshow.step (Slideshow.launched width) past

theorem step_slideshow_runs (event : WelcomeEvent) (runs : window.SlideshowRuns width) :
    (window.step icu width event).SlideshowRuns width := by
  obtain ⟨past, reached⟩ := runs
  have later : ∀ events, run Slideshow.step window.slideshow events = run Slideshow.step (Slideshow.launched width) (past ++ events) := by
    intro events
    rw [reached, run_append]
  cases event with
  | app event =>
      by_cases cold : event = .willConnect
      · rw [cold]
        exact ⟨[.viewWillAppear 0], rfl⟩
      · rw [step_warm icu width window event cold]
        by_cases installs : window.app.installsWelcome event = true
        · rw [if_pos installs]
          exact ⟨_, later _⟩
        · rw [if_neg installs]
          exact ⟨_, later _⟩
  | timerFires timer => exact ⟨_, later [.timerFires timer]⟩
  | swipe screen page => exact ⟨_, later [.swipe screen page]⟩
  | willDisplay screen row => exact ⟨_, later [.willDisplay screen row]⟩
  | backSwipeCancelled =>
      rw [step]
      split
      · exact ⟨_, later _⟩
      · exact ⟨past, reached⟩

def keepsRoot : WelcomeEvent → Bool
  | .app .willConnect => false
  | .app (.rootTransition .welcome) => false
  | _ => true

theorem step_left (event : WelcomeEvent) (keeps : keepsRoot event = true) (left : window.hasLeft = true) :
    (window.step icu width event).hasLeft = true := by
  cases event with
  | app event =>
      have warm : event ≠ .willConnect := by
        intro cold
        rw [cold] at keeps
        cases keeps
      have same : window.app.installsWelcome event ≠ true := by
        intro installs
        cases event with
        | rootTransition controller =>
            cases controller with
            | welcome => cases keeps
            | _ => cases installs
        | _ => cases installs
      rw [step_warm icu width window event warm, if_neg same]
      simp only [left, Bool.true_or]
  | timerFires timer => exact left
  | swipe screen page => exact left
  | willDisplay screen row => exact left
  | backSwipeCancelled =>
      rw [step]
      split
      · exact left
      · exact left

end Steps

theorem run_scrolls (icu : WordCharacters) (width : CGFloat) (backend : Backend) (events : List WelcomeEvent) :
    (run (step icu width) (scene width backend) events).Scrolls :=
  invariant_run (step icu width) Scrolls (step_scrolls icu width) (scene width backend) events (launch_scrolls width (App.scene backend) rfl)

theorem no_timer_once_left (window : WelcomeApp) (scrolls : window.Scrolls) (left : window.hasLeft = true) :
    window.slideshow.scheduled = [] := by
  have targets := scrolls.stands.targets
  rw [if_pos left] at targets
  exact List.map_eq_nil_iff.mp targets

theorem get_started_leaves (icu : WordCharacters) (width : CGFloat) (window : WelcomeApp)
    (top : window.app.topViewController = some .welcome) :
    (window.step icu width (.app .didTapGetStarted)).hasLeft = true := by
  have pushed : (window.app.step icu .didTapGetStarted).showsWelcome = false := by
    rw [App.step, App.didTapGetStarted, top]
    simp [App.showsWelcome, App.topViewController, App.pushViewController]
  rw [step_warm icu width window .didTapGetStarted (by simp)]
  simp [App.installsWelcome, pushed]

end WelcomeApp

-- The two models of a launch agree: without its slideshow this is the app, and its
-- slideshow is one that the life cycles alone lead to.
theorem welcome_runs_project (icu : WordCharacters) (width : CGFloat) (backend : Backend) (events : List WelcomeEvent) :
    (run (WelcomeApp.step icu width) (WelcomeApp.scene width backend) events).app =
        run (App.step icu) (App.scene backend)
          (outputs (WelcomeApp.step icu width) (fun _ => WelcomeApp.asks) (WelcomeApp.scene width backend) events) ∧
      (run (WelcomeApp.step icu width) (WelcomeApp.scene width backend) events).SlideshowRuns width := by
  apply And.intro
  · exact simulated_run (WelcomeApp.step icu width) (fun _ => WelcomeApp.asks) WelcomeApp.app (App.step icu)
      (WelcomeApp.step_asks icu width) (WelcomeApp.scene width backend) events
  · exact invariant_run (WelcomeApp.step icu width) (WelcomeApp.SlideshowRuns width) (WelcomeApp.step_slideshow_runs icu width)
      (WelcomeApp.scene width backend) events ⟨[.viewWillAppear 0], rfl⟩

theorem auto_scroll_runs_until_left (icu : WordCharacters) (width : CGFloat) (backend : Backend) (events : List WelcomeEvent) :
    let window := run (WelcomeApp.step icu width) (WelcomeApp.scene width backend) events
    window.slideshow.scheduled.map Timer.target = (if window.hasLeft then [] else [window.welcome]) ∧
      (window.slideshow.RunsOnScreen ↔ (window.app.topViewController = some .welcome → window.hasLeft = false)) := by
  intro window
  have scrolls : window.Scrolls := WelcomeApp.run_scrolls icu width backend events
  refine ⟨scrolls.stands.targets, ?_⟩
  rw [Slideshow.runs_on_screen_iff _ scrolls.stands.owned, scrolls.stands.targets, scrolls.stands.onScreen]
  cases shows : window.app.showsWelcome with
  | true =>
      have top : window.app.topViewController = some .welcome := of_decide_eq_true shows
      cases left : window.hasLeft with
      | true => simp [top]
      | false => simp
  | false =>
      have covered : window.app.topViewController ≠ some .welcome := of_decide_eq_false shows
      simp [scrolls.left shows, covered]

theorem get_started_stops_auto_scroll (icu : WordCharacters) (width : CGFloat) (backend : Backend) (before after : List WelcomeEvent)
    (top : (run (WelcomeApp.step icu width) (WelcomeApp.scene width backend) before).app.topViewController = some .welcome)
    (keeps : ∀ event ∈ after, WelcomeApp.keepsRoot event = true) :
    (run (WelcomeApp.step icu width) (WelcomeApp.scene width backend) (before ++ .app .didTapGetStarted :: after)).slideshow.scheduled
      = [] := by
  apply WelcomeApp.no_timer_once_left _ (WelcomeApp.run_scrolls icu width backend _)
  rw [run_append, run_cons]
  apply invariant_events (WelcomeApp.step icu width) (fun window => window.hasLeft = true) (fun event => WelcomeApp.keepsRoot event = true)
  · intro window event left kept
    exact WelcomeApp.step_left icu width window event kept left
  · exact keeps
  · exact WelcomeApp.get_started_leaves icu width _ top

theorem welcome_stands_after_coming_back :
    let window := run (WelcomeApp.step asciiWords 414) (WelcomeApp.scene 414 emptyBackend)
      ([.app (.rootTransition .welcome)] ++ .app .didTapGetStarted :: [.app .popViewController])
    window.slideshow.scheduled = [] ∧ window.app.topViewController = some .welcome :=
  ⟨get_started_stops_auto_scroll asciiWords 414 emptyBackend [.app (.rootTransition .welcome)] [.app .popViewController]
    (by decide) (by decide), by decide⟩

end DuplicatedApps
