import Mathlib.Data.List.Nodup
import Mathlib.Logic.Function.Basic
import DuplicatedApps.SlidePages

set_option autoImplicit false

namespace DuplicatedApps

open Runs

-- A scroll that raises would end the app; never_raises rules it out.
def WelcomeViewController.handle (screen : WelcomeViewController) (event : SlideEvent) : WelcomeViewController :=
  (screen.step event).getD screen

structure Timer where
  id : Nat
  target : Nat
deriving DecidableEq

structure Slideshow where
  controllers : Nat → WelcomeViewController
  onScreen : List Nat
  scheduled : List Timer
  nextTimer : Nat

inductive LifeCycleEvent where
  | viewWillAppear (screen : Nat)
  | viewWillDisappear (screen : Nat)
  | timerFires (timer : Timer)
  | swipe (screen page : Nat)
  | willDisplay (screen row : Nat)

namespace Slideshow

def setController (slideshow : Slideshow) (screen : Nat) (controller : WelcomeViewController) : Slideshow :=
  { slideshow with controllers := Function.update slideshow.controllers screen controller }

def startAutoScroll (slideshow : Slideshow) (screen : Nat) : Slideshow :=
  { slideshow with
    scheduled := ⟨slideshow.nextTimer, screen⟩ :: slideshow.scheduled
    nextTimer := slideshow.nextTimer + 1 }.setController screen
      { slideshow.controllers screen with autoScrollTimer := some slideshow.nextTimer }

def invalidate (slideshow : Slideshow) : Option Nat → Slideshow
  | some id => { slideshow with scheduled := slideshow.scheduled.filter fun timer => timer.id ≠ id }
  | none => slideshow

def stopAutoScroll (slideshow : Slideshow) (screen : Nat) : Slideshow :=
  (slideshow.invalidate (slideshow.controllers screen).autoScrollTimer).setController screen
    { slideshow.controllers screen with autoScrollTimer := none }

def viewDidLoad (slideshow : Slideshow) (screen : Nat) : Slideshow :=
  (slideshow.setController screen
    { (slideshow.controllers screen).setUpPageControl with isViewLoaded := true }).startAutoScroll screen

def loadViewIfNeeded (slideshow : Slideshow) (screen : Nat) : Slideshow :=
  if (slideshow.controllers screen).isViewLoaded then slideshow else slideshow.viewDidLoad screen

def viewWillAppear (slideshow : Slideshow) (screen : Nat) : Slideshow :=
  { slideshow.loadViewIfNeeded screen with onScreen := screen :: slideshow.onScreen }

def viewWillDisappear (slideshow : Slideshow) (screen : Nat) : Slideshow :=
  { slideshow.stopAutoScroll screen with onScreen := slideshow.onScreen.erase screen }

def tell (slideshow : Slideshow) (screen : Nat) (event : SlideEvent) : Slideshow :=
  slideshow.setController screen ((slideshow.controllers screen).handle event)

def step (slideshow : Slideshow) : LifeCycleEvent → Slideshow
  | .viewWillAppear screen =>
      if screen ∈ slideshow.onScreen then slideshow else slideshow.viewWillAppear screen
  | .viewWillDisappear screen =>
      if screen ∈ slideshow.onScreen then slideshow.viewWillDisappear screen else slideshow
  | .timerFires timer =>
      if timer ∈ slideshow.scheduled then slideshow.tell timer.target .autoScrollToNextPage else slideshow
  | .swipe screen page =>
      if (slideshow.controllers screen).isViewLoaded then slideshow.tell screen (.swipe page) else slideshow
  | .willDisplay screen row =>
      if (slideshow.controllers screen).isViewLoaded then slideshow.tell screen (.willDisplay row) else slideshow

def launched (width : CGFloat) : Slideshow := ⟨fun _ => WelcomeViewController.fromNib width, [], [], 0⟩

def told (slideshow : Slideshow) : LifeCycleEvent → List (Nat × SlideEvent)
  | .viewWillAppear _ => []
  | .viewWillDisappear _ => []
  | .timerFires timer => if timer ∈ slideshow.scheduled then [(timer.target, .autoScrollToNextPage)] else []
  | .swipe screen page =>
      if (slideshow.controllers screen).isViewLoaded ∧ (slideshow.controllers screen).receives (.swipe page) then
        [(screen, .swipe page)]
      else []
  | .willDisplay screen row =>
      if (slideshow.controllers screen).isViewLoaded ∧ (slideshow.controllers screen).receives (.willDisplay row) then
        [(screen, .willDisplay row)]
      else []

def RunsOnScreen (slideshow : Slideshow) : Prop :=
  slideshow.scheduled.length = slideshow.onScreen.length ∧
    ∀ timer ∈ slideshow.scheduled, timer.target ∈ slideshow.onScreen

def NotBroughtBack (slideshow : Slideshow) (event : LifeCycleEvent) : Prop :=
  ∀ screen, event = .viewWillAppear screen → screen ∉ slideshow.onScreen →
    (slideshow.controllers screen).isViewLoaded = false

inductive Effect (slideshow : Slideshow) : LifeCycleEvent → Slideshow → Prop
  | idle (event : LifeCycleEvent) (silent : slideshow.told event = []) (met : slideshow.NotBroughtBack event) :
      Effect slideshow event slideshow
  | appeared (screen : Nat) (hidden : screen ∉ slideshow.onScreen) :
      Effect slideshow (.viewWillAppear screen) (slideshow.viewWillAppear screen)
  | disappeared (screen : Nat) (shown : screen ∈ slideshow.onScreen) :
      Effect slideshow (.viewWillDisappear screen) (slideshow.viewWillDisappear screen)
  | told (event : LifeCycleEvent) (screen : Nat) (slide : SlideEvent) (tells : slideshow.told event = [(screen, slide)])
      (met : slideshow.NotBroughtBack event) : Effect slideshow event (slideshow.tell screen slide)

theorem unreceived_idle (slideshow : Slideshow) (screen : Nat) (slide : SlideEvent)
    (unreceived : ¬ (slideshow.controllers screen).receives slide = true) : slideshow.tell screen slide = slideshow := by
  rw [tell, WelcomeViewController.handle, WelcomeViewController.step_unreceived _ slide unreceived, Option.getD_some,
    setController, Function.update_eq_self]

theorem step_effect (slideshow : Slideshow) (event : LifeCycleEvent) : slideshow.Effect event (slideshow.step event) := by
  cases event with
  | viewWillAppear screen =>
      by_cases shown : screen ∈ slideshow.onScreen
      · rw [step, if_pos shown]
        refine .idle _ rfl ?_
        intro other same hidden
        cases same
        exact absurd shown hidden
      · rw [step, if_neg shown]
        exact .appeared screen shown
  | viewWillDisappear screen =>
      by_cases shown : screen ∈ slideshow.onScreen
      · rw [step, if_pos shown]
        exact .disappeared screen shown
      · rw [step, if_neg shown]
        exact .idle _ rfl (fun _ same => LifeCycleEvent.noConfusion same)
  | timerFires timer =>
      by_cases due : timer ∈ slideshow.scheduled
      · rw [step, if_pos due]
        exact .told _ _ _ (if_pos due) (fun _ same => LifeCycleEvent.noConfusion same)
      · rw [step, if_neg due]
        exact .idle _ (if_neg due) (fun _ same => LifeCycleEvent.noConfusion same)
  | swipe screen page =>
      rw [step]
      by_cases loaded : (slideshow.controllers screen).isViewLoaded = true
      · rw [if_pos loaded]
        by_cases received : (slideshow.controllers screen).receives (.swipe page) = true
        · exact .told _ _ _ (if_pos ⟨loaded, received⟩) (fun _ same => LifeCycleEvent.noConfusion same)
        · rw [unreceived_idle slideshow screen _ received]
          exact .idle _ (if_neg (fun both => received both.2)) (fun _ same => LifeCycleEvent.noConfusion same)
      · rw [if_neg loaded]
        exact .idle _ (if_neg (fun both => loaded both.1)) (fun _ same => LifeCycleEvent.noConfusion same)
  | willDisplay screen row =>
      rw [step]
      by_cases loaded : (slideshow.controllers screen).isViewLoaded = true
      · rw [if_pos loaded]
        by_cases received : (slideshow.controllers screen).receives (.willDisplay row) = true
        · exact .told _ _ _ (if_pos ⟨loaded, received⟩) (fun _ same => LifeCycleEvent.noConfusion same)
        · rw [unreceived_idle slideshow screen _ received]
          exact .idle _ (if_neg (fun both => received both.2)) (fun _ same => LifeCycleEvent.noConfusion same)
      · rw [if_neg loaded]
        exact .idle _ (if_neg (fun both => loaded both.1)) (fun _ same => LifeCycleEvent.noConfusion same)

structure Owned (slideshow : Slideshow) : Prop where
  nodup : slideshow.onScreen.Nodup
  targets : (slideshow.scheduled.map Timer.target).Sublist slideshow.onScreen
  known : ∀ screen id, (slideshow.controllers screen).autoScrollTimer = some id ↔ ⟨id, screen⟩ ∈ slideshow.scheduled
  apart : ∀ id screen other, ⟨id, screen⟩ ∈ slideshow.scheduled → ⟨id, other⟩ ∈ slideshow.scheduled → screen = other
  fresh : ∀ timer ∈ slideshow.scheduled, timer.id < slideshow.nextTimer
  loaded : ∀ screen ∈ slideshow.onScreen, (slideshow.controllers screen).isViewLoaded = true

theorem targets_on_screen (slideshow : Slideshow) (owned : slideshow.Owned) (timer : Timer)
    (member : timer ∈ slideshow.scheduled) : timer.target ∈ slideshow.onScreen :=
  owned.targets.subset (List.mem_map_of_mem member)

theorem page_owned (slideshow : Slideshow) (screen : Nat) (controller : WelcomeViewController)
    (timer : controller.autoScrollTimer = (slideshow.controllers screen).autoScrollTimer)
    (view : controller.isViewLoaded = (slideshow.controllers screen).isViewLoaded) (owned : slideshow.Owned) :
    (slideshow.setController screen controller).Owned := by
  have timers : ∀ other, ((slideshow.setController screen controller).controllers other).autoScrollTimer =
      (slideshow.controllers other).autoScrollTimer := by
    intro other
    by_cases same : other = screen
    · subst same
      simpa [setController] using timer
    · simp [setController, same]
  have views : ∀ other, ((slideshow.setController screen controller).controllers other).isViewLoaded =
      (slideshow.controllers other).isViewLoaded := by
    intro other
    by_cases same : other = screen
    · subst same
      simpa [setController] using view
    · simp [setController, same]
  apply Owned.mk
  · exact owned.nodup
  · exact owned.targets
  · intro other id
    rw [timers]
    exact owned.known other id
  · exact owned.apart
  · exact owned.fresh
  · intro other shown
    rw [views]
    exact owned.loaded other shown

theorem handle_frame (controller : WelcomeViewController) (slide : SlideEvent) :
    (controller.handle slide).isViewLoaded = controller.isViewLoaded ∧
      (controller.handle slide).autoScrollTimer = controller.autoScrollTimer := by
  rw [WelcomeViewController.handle]
  cases stepped : controller.step slide with
  | none => exact ⟨rfl, rfl⟩
  | some next => exact WelcomeViewController.step_frame controller next slide stepped

theorem tell_owned (slideshow : Slideshow) (screen : Nat) (slide : SlideEvent) (owned : slideshow.Owned) :
    (slideshow.tell screen slide).Owned := by
  have frame := handle_frame (slideshow.controllers screen) slide
  exact page_owned slideshow screen _ frame.2 frame.1 owned

theorem first_showing_owned (slideshow : Slideshow) (screen : Nat) (hidden : screen ∉ slideshow.onScreen)
    (owned : slideshow.Owned) :
    Owned { slideshow.viewDidLoad screen with onScreen := screen :: slideshow.onScreen } := by
  have unscheduled : ∀ id, ⟨id, screen⟩ ∉ slideshow.scheduled := by
    intro id member
    exact hidden (targets_on_screen slideshow owned _ member)
  have unused : ∀ other, ⟨slideshow.nextTimer, other⟩ ∉ slideshow.scheduled := by
    intro other member
    exact absurd (owned.fresh _ member) (Nat.lt_irrefl _)
  apply Owned.mk
  · exact List.nodup_cons.mpr ⟨hidden, owned.nodup⟩
  · exact owned.targets.cons_cons screen
  · intro other id
    by_cases same : other = screen
    · subst same
      have none := unscheduled id
      simp [viewDidLoad, startAutoScroll, setController, none, eq_comm]
    · have old := owned.known other id
      simp [viewDidLoad, startAutoScroll, setController, same, old]
  · intro id one two first second
    simp only [viewDidLoad, startAutoScroll, setController, List.mem_cons, Timer.mk.injEq] at first second
    rcases first with new | old
    · rcases second with again | older
      · exact new.2.trans again.2.symm
      · rw [new.1] at older
        exact absurd older (unused two)
    · rcases second with again | older
      · rw [again.1] at old
        exact absurd old (unused one)
      · exact owned.apart id one two old older
  · intro timer member
    simp only [viewDidLoad, startAutoScroll, setController, List.mem_cons] at member
    rcases member with rfl | old
    · exact Nat.lt_succ_self _
    · exact Nat.lt_succ_of_lt (owned.fresh timer old)
  · intro other shown
    by_cases same : other = screen
    · subst same
      simp [viewDidLoad, startAutoScroll, setController]
    · have before := (List.mem_cons.mp shown).resolve_left same
      have old := owned.loaded other before
      simp [viewDidLoad, startAutoScroll, setController, same, old]

theorem brought_back_owned (slideshow : Slideshow) (screen : Nat) (hidden : screen ∉ slideshow.onScreen)
    (loaded : (slideshow.controllers screen).isViewLoaded = true) (owned : slideshow.Owned) :
    Owned { slideshow with onScreen := screen :: slideshow.onScreen } := by
  apply Owned.mk
  · exact List.nodup_cons.mpr ⟨hidden, owned.nodup⟩
  · exact owned.targets.cons screen
  · exact owned.known
  · exact owned.apart
  · exact owned.fresh
  · intro other shown
    rcases List.mem_cons.mp shown with rfl | before
    · exact loaded
    · exact owned.loaded other before

theorem stop_scheduled (slideshow : Slideshow) (screen : Nat) (owned : slideshow.Owned) :
    (slideshow.stopAutoScroll screen).scheduled = slideshow.scheduled.filter fun timer => timer.target ≠ screen := by
  cases running : (slideshow.controllers screen).autoScrollTimer with
  | none =>
      have idle : ∀ timer ∈ slideshow.scheduled, timer.target ≠ screen := by
        intro timer member same
        subst same
        have known := (owned.known timer.target timer.id).mpr member
        rw [running] at known
        exact absurd known (by simp)
      have all : slideshow.scheduled.filter (fun timer => timer.target ≠ screen) = slideshow.scheduled := by
        apply List.filter_eq_self.mpr
        intro timer member
        simpa using idle timer member
      rw [all]
      simp [stopAutoScroll, invalidate, setController, running]
  | some id =>
      have own := (owned.known screen id).mp running
      simp only [stopAutoScroll, invalidate, setController, running]
      apply List.filter_congr
      intro timer member
      apply decide_eq_decide.mpr
      apply not_congr
      constructor
      · intro same
        subst same
        exact owned.apart timer.id timer.target screen member own
      · intro same
        subst same
        have known := (owned.known timer.target timer.id).mpr member
        rw [running] at known
        exact (Option.some.inj known).symm

theorem disappear_targets (slideshow : Slideshow) (screen : Nat) (owned : slideshow.Owned) :
    (slideshow.viewWillDisappear screen).scheduled.map Timer.target =
      (slideshow.scheduled.map Timer.target).filter (· ≠ screen) := by
  rw [viewWillDisappear, stop_scheduled slideshow screen owned, List.filter_map]
  rfl

theorem disappear_on_screen (slideshow : Slideshow) (screen : Nat) (owned : slideshow.Owned) :
    (slideshow.viewWillDisappear screen).onScreen = slideshow.onScreen.filter (· ≠ screen) := by
  rw [viewWillDisappear, owned.nodup.erase_eq_filter]
  apply List.filter_congr
  intro other _
  by_cases same : other = screen
  · simp [same]
  · simp [same]

theorem disappear_owned (slideshow : Slideshow) (screen : Nat) (owned : slideshow.Owned) :
    (slideshow.viewWillDisappear screen).Owned := by
  have left : ∀ timer, timer ∈ (slideshow.viewWillDisappear screen).scheduled ↔
      timer ∈ slideshow.scheduled ∧ timer.target ≠ screen := by
    intro timer
    rw [viewWillDisappear, stop_scheduled slideshow screen owned, List.mem_filter, decide_eq_true_iff]
  have number : (slideshow.viewWillDisappear screen).nextTimer = slideshow.nextTimer := by
    rw [viewWillDisappear, stopAutoScroll, setController]
    cases (slideshow.controllers screen).autoScrollTimer with
    | none => rfl
    | some id => rfl
  have controllers : (slideshow.viewWillDisappear screen).controllers =
      Function.update slideshow.controllers screen { slideshow.controllers screen with autoScrollTimer := none } := by
    rw [viewWillDisappear, stopAutoScroll, setController]
    cases (slideshow.controllers screen).autoScrollTimer with
    | none => rfl
    | some id => rfl
  apply Owned.mk
  · rw [disappear_on_screen slideshow screen owned]
    exact owned.nodup.filter _
  · rw [disappear_targets slideshow screen owned, disappear_on_screen slideshow screen owned]
    exact owned.targets.filter _
  · intro other id
    rw [left, controllers]
    by_cases same : other = screen
    · subst same
      simp
    · have old := owned.known other id
      simp [same, old]
  · intro id one two first second
    exact owned.apart id one two ((left _).mp first).1 ((left _).mp second).1
  · intro timer member
    rw [number]
    exact owned.fresh timer ((left timer).mp member).1
  · intro other shown
    rw [disappear_on_screen slideshow screen owned, List.mem_filter, decide_eq_true_iff] at shown
    have old := owned.loaded other shown.1
    rw [controllers]
    simpa [shown.2] using old

theorem appear_owned (slideshow : Slideshow) (screen : Nat) (hidden : screen ∉ slideshow.onScreen) (owned : slideshow.Owned) :
    (slideshow.viewWillAppear screen).Owned := by
  rw [viewWillAppear, loadViewIfNeeded]
  cases loaded : (slideshow.controllers screen).isViewLoaded with
  | true => exact brought_back_owned slideshow screen hidden loaded owned
  | false => exact first_showing_owned slideshow screen hidden owned

theorem step_owned (slideshow : Slideshow) (event : LifeCycleEvent) (owned : slideshow.Owned) :
    (slideshow.step event).Owned := by
  have effect := step_effect slideshow event
  generalize slideshow.step event = after at effect
  cases effect with
  | idle _ silent met => exact owned
  | appeared screen hidden => exact appear_owned slideshow screen hidden owned
  | disappeared screen shown => exact disappear_owned slideshow screen owned
  | told _ screen slide tells met => exact tell_owned slideshow screen slide owned

theorem launched_owned (width : CGFloat) : (launched width).Owned := by
  apply Owned.mk
  · exact List.nodup_nil
  · exact List.Sublist.refl _
  · intro screen id
    simp [launched, WelcomeViewController.fromNib]
  · intro id one two first _
    exact absurd first List.not_mem_nil
  · intro timer member
    exact absurd member List.not_mem_nil
  · intro screen shown
    exact absurd shown List.not_mem_nil

theorem runs_on_screen_iff (slideshow : Slideshow) (owned : slideshow.Owned) :
    slideshow.RunsOnScreen ↔ slideshow.scheduled.map Timer.target = slideshow.onScreen := by
  constructor
  · intro runs
    apply owned.targets.eq_of_length
    rw [List.length_map]
    exact runs.1
  · intro paired
    constructor
    · rw [← paired, List.length_map]
    · exact targets_on_screen slideshow owned

theorem appear_paired_iff (slideshow : Slideshow) (screen : Nat) (hidden : screen ∉ slideshow.onScreen)
    (paired : slideshow.scheduled.map Timer.target = slideshow.onScreen) :
    (slideshow.viewWillAppear screen).scheduled.map Timer.target = (slideshow.viewWillAppear screen).onScreen ↔
      slideshow.NotBroughtBack (.viewWillAppear screen) := by
  have condition : slideshow.NotBroughtBack (.viewWillAppear screen) ↔
      (slideshow.controllers screen).isViewLoaded = false := by
    constructor
    · intro met
      exact met screen rfl hidden
    · intro first other same _
      cases same
      exact first
  rw [condition, viewWillAppear, loadViewIfNeeded]
  cases loaded : (slideshow.controllers screen).isViewLoaded with
  | true => simp [paired]
  | false => simp [viewDidLoad, startAutoScroll, setController, paired]

theorem step_paired_iff (slideshow : Slideshow) (event : LifeCycleEvent) (owned : slideshow.Owned)
    (paired : slideshow.scheduled.map Timer.target = slideshow.onScreen) :
    (slideshow.step event).scheduled.map Timer.target = (slideshow.step event).onScreen ↔
      slideshow.NotBroughtBack event := by
  have effect := step_effect slideshow event
  generalize slideshow.step event = after at effect
  cases effect with
  | idle _ silent met => exact iff_of_true paired met
  | appeared screen hidden => exact appear_paired_iff slideshow screen hidden paired
  | disappeared screen shown =>
      have met : slideshow.NotBroughtBack (.viewWillDisappear screen) := fun _ same => LifeCycleEvent.noConfusion same
      apply iff_of_true _ met
      rw [disappear_targets slideshow screen owned, disappear_on_screen slideshow screen owned, paired]
  | told _ screen slide tells met => exact iff_of_true paired met

structure Paired (slideshow : Slideshow) : Prop where
  owned : slideshow.Owned
  targets : slideshow.scheduled.map Timer.target = slideshow.onScreen

theorem step_paired (slideshow : Slideshow) (event : LifeCycleEvent) (paired : slideshow.Paired)
    (met : slideshow.NotBroughtBack event) : (slideshow.step event).Paired :=
  ⟨step_owned slideshow event paired.owned, (step_paired_iff slideshow event paired.owned paired.targets).mpr met⟩

theorem brought_back_seen (slideshow : Slideshow) (event : LifeCycleEvent) (paired : slideshow.Paired)
    (runs : (slideshow.step event).RunsOnScreen) : slideshow.NotBroughtBack event := by
  have owned := step_owned slideshow event paired.owned
  have targets := (runs_on_screen_iff _ owned).mp runs
  exact (step_paired_iff slideshow event paired.owned paired.targets).mp targets

end Slideshow

-- One timer for each screen on screen, in every state of a run, exactly as long as no
-- screen comes back: what leaving stops is started again by viewDidLoad only.
theorem slideshow_runs_on_screen (width : CGFloat) (events : List LifeCycleEvent) :
    (∀ reached ∈ trace Slideshow.step (Slideshow.launched width) events, reached.RunsOnScreen) ↔
      Along Slideshow.step Slideshow.NotBroughtBack (Slideshow.launched width) events := by
  have start : (Slideshow.launched width).Paired := ⟨Slideshow.launched_owned width, rfl⟩
  constructor
  · intro runs
    exact along_of_good _ _ Slideshow.Paired Slideshow.RunsOnScreen Slideshow.step_paired Slideshow.brought_back_seen
      _ _ start runs
  · intro met reached member
    have paired := invariant_trace _ _ Slideshow.Paired Slideshow.step_paired _ _ start met reached member
    exact (Slideshow.runs_on_screen_iff reached paired.owned).mpr paired.targets

theorem slideshow_stops_for_good :
    ¬ ∀ reached ∈ trace Slideshow.step (Slideshow.launched 414)
        [.viewWillAppear 0, .viewWillDisappear 0, .viewWillAppear 0], reached.RunsOnScreen := by
  intro runs
  have last := runs _ (run_mem_trace _ _ _)
  exact absurd last.1 (by decide)

end DuplicatedApps
