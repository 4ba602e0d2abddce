import Mathlib.Data.List.Infix
import DuplicatedApps.Slideshow

set_option autoImplicit false

namespace DuplicatedApps

open Runs

def SlideEvent.swipedTo : SlideEvent → Option Nat
  | .swipe page => some page
  | _ => none

def slideAfter (history : List SlideEvent) : Nat :=
  let swiped := (history.filterMap SlideEvent.swipedTo).getLast?.getD 0
  let ticks := (history.reverse.takeWhile fun event => event.swipedTo.isNone).count .autoScrollToNextPage
  (swiped + ticks) % 3

def rowAfter (history : List SlideEvent) : Nat :=
  match history.getLast? with
  | some (.willDisplay row) => row
  | _ => slideAfter history

def scrollTargets (history : List SlideEvent) : List Int :=
  (history.inits.filter fun past => past.getLast? = some .autoScrollToNextPage).map fun past => (slideAfter past : Int)

structure WelcomeViewController.Follows (width : CGFloat) (history : List SlideEvent) (screen : WelcomeViewController) :
    Prop where
  page : screen.currentPage = slideAfter history
  control : screen.slidePageControl = ⟨rowAfter history, 3⟩
  view : screen.homeScreenSlideCollectionView = ⟨width, slideAfter history * width⟩
  scrolled : screen.scrolledTo = scrollTargets history

section History

variable (history : List SlideEvent)

theorem slide_after_below : slideAfter history < 3 := Nat.mod_lt _ (by decide)

theorem slide_after_tick : slideAfter (history ++ [.autoScrollToNextPage]) = (slideAfter history + 1) % 3 := by
  simp only [slideAfter, List.filterMap_append, List.reverse_append, List.reverse_singleton, List.singleton_append,
    List.filterMap_cons, List.filterMap_nil, SlideEvent.swipedTo, List.append_nil, List.takeWhile_cons, Option.isNone_none,
    if_true, List.count_cons_self]
  omega

theorem slide_after_swipe (page : Nat) (shown : page < 3) : slideAfter (history ++ [.swipe page]) = page := by
  simp [slideAfter, SlideEvent.swipedTo, Nat.mod_eq_of_lt shown]

theorem slide_after_display (row : Nat) : slideAfter (history ++ [.willDisplay row]) = slideAfter history := by
  simp [slideAfter, SlideEvent.swipedTo]

theorem scroll_targets_next (event : SlideEvent) :
    scrollTargets (history ++ [event]) =
      scrollTargets history ++ if event = .autoScrollToNextPage then [(slideAfter (history ++ [event]) : Int)] else [] := by
  simp only [scrollTargets, List.inits_append, List.filter_append, List.map_append, List.inits, List.map_cons, List.map_nil,
    List.tail_cons]
  by_cases tick : event = .autoScrollToNextPage
  · simp [tick]
  · simp [tick]

end History

namespace WelcomeViewController

section Steps

variable (width : CGFloat) (history : List SlideEvent) (screen : WelcomeViewController)

theorem follows_on_slide (follows : screen.Follows width history) : screen.OnSlide 3 width := by
  have below := slide_after_below history
  refine ⟨?_, ?_, ?_, ?_⟩
  · rw [follows.control]
    rfl
  · rw [follows.page]
    omega
  · intro item asked
    rw [follows.scrolled] at asked
    obtain ⟨past, _, rfl⟩ := List.mem_map.mp asked
    have bound := slide_after_below past
    omega
  · rw [follows.view, follows.page, Int.cast_natCast]

theorem row_in_range (row : Nat) (shown : row < 3) (control : UIPageControl) (pages : control.numberOfPages = 3) :
    control.setCurrentPage row = ⟨row, 3⟩ := by
  rw [UIPageControl.setCurrentPage, pages, UIPageControl.mk.injEq]
  omega

theorem step_follows (event : SlideEvent) (wide : 50 < width) (received : screen.receives event = true)
    (follows : screen.Follows width history) :
    ∃ next, screen.step event = some next ∧ next.Follows width (history ++ [event]) := by
  have valid := follows_on_slide width history screen follows
  have pages : screen.slidePageControl.numberOfPages = 3 := valid.pages
  cases event with
  | autoScrollToNextPage =>
      have next : (screen.currentPage + 1) % (3 : Nat) = slideAfter (history ++ [.autoScrollToNextPage]) := by
        rw [follows.page, slide_after_tick]
        omega
      have below := slide_after_below (history ++ [.autoScrollToNextPage])
      rw [tick_step 3 width screen valid (by linarith), next]
      refine ⟨_, rfl, rfl, ?_, ?_, ?_⟩
      · rw [rowAfter, List.getLast?_concat]
        exact row_in_range _ below _ pages
      · rw [setPage, Int.cast_natCast]
      · rw [setPage, follows.scrolled, scroll_targets_next, if_pos rfl]
  | swipe page =>
      have shown := (receives_iff 3 width screen valid page).1.mp received
      have same := slide_after_swipe history page shown
      rw [swipe_step 3 width screen page shown (by norm_num; linarith) valid]
      refine ⟨_, rfl, ?_, ?_, ?_, ?_⟩
      · rw [same]
        rfl
      · rw [rowAfter, List.getLast?_concat]
        simp only [same]
        exact row_in_range page shown _ pages
      · rw [same]
        rfl
      · rw [scroll_targets_next, if_neg (fun impossible => SlideEvent.noConfusion impossible), List.append_nil]
        exact follows.scrolled
  | willDisplay row =>
      have shown := (receives_iff 3 width screen valid row).2.mp received
      have same := slide_after_display history row
      refine ⟨screen.willDisplay row, if_pos received, ?_, ?_, ?_, ?_⟩
      · rw [same]
        exact follows.page
      · rw [rowAfter, List.getLast?_concat]
        exact row_in_range row shown _ pages
      · rw [same]
        exact follows.view
      · rw [scroll_targets_next, if_neg (fun impossible => SlideEvent.noConfusion impossible), List.append_nil]
        exact follows.scrolled

theorem never_raises (event : SlideEvent) (wide : 50 < width) (follows : screen.Follows width history) :
    ∃ next, screen.step event = some next := by
  by_cases received : screen.receives event = true
  · obtain ⟨next, stepped, _⟩ := step_follows width history screen event wide received follows
    exact ⟨next, stepped⟩
  · exact ⟨screen, step_unreceived screen event received⟩

theorem from_nib_follows : (fromNib width).Follows width [] := by
  refine ⟨rfl, rfl, ?_, rfl⟩
  simp [fromNib, slideAfter]

theorem set_up_follows (follows : screen.Follows width []) : screen.setUpPageControl.Follows width [] := by
  refine ⟨follows.page, ?_, follows.view, follows.scrolled⟩
  rw [setUpPageControl, follows.control]
  rfl

end Steps

section Untimed

variable (screen : WelcomeViewController) (events : List SlideEvent)

theorem swipe_unscrolled (page : Nat) : (screen.handle (.swipe page)).scrolledTo = screen.scrolledTo := by
  rw [handle, step]
  split
  · simp only [swipe, scrollViewDidEndDecelerating]
    cases SlideCollectionView.getIndexFromItemPosition _ with
    | none => rfl
    | some index => rfl
  · rfl

theorem display_in_place (row : Nat) :
    ∃ control, screen.handle (.willDisplay row) = { screen with slidePageControl := control } := by
  rw [handle, step]
  split
  · exact ⟨_, rfl⟩
  · exact ⟨screen.slidePageControl, rfl⟩

theorem run_unscrolled (untimed : .autoScrollToNextPage ∉ events) :
    (run handle screen events).scrolledTo = screen.scrolledTo := by
  apply invariant_events handle (fun reached => reached.scrolledTo = screen.scrolledTo)
    (fun event => event ≠ .autoScrollToNextPage)
  · intro reached event same allowed
    cases event with
    | autoScrollToNextPage => exact absurd rfl allowed
    | swipe page => exact (swipe_unscrolled reached page).trans same
    | willDisplay row =>
        obtain ⟨control, displayed⟩ := display_in_place reached row
        rw [displayed]
        exact same
  · intro event member
    rintro rfl
    exact untimed member
  · rfl

theorem run_in_place (untimed : .autoScrollToNextPage ∉ events) (unswiped : ∀ page, .swipe page ∉ events) :
    (run handle screen events).currentPage = screen.currentPage ∧
      (run handle screen events).homeScreenSlideCollectionView = screen.homeScreenSlideCollectionView := by
  apply invariant_events handle (fun reached => reached.currentPage = screen.currentPage ∧
    reached.homeScreenSlideCollectionView = screen.homeScreenSlideCollectionView) (fun event => event ∈ events)
  · intro reached event same member
    cases event with
    | autoScrollToNextPage => exact absurd member untimed
    | swipe page => exact absurd member (unswiped page)
    | willDisplay row =>
        obtain ⟨control, displayed⟩ := display_in_place reached row
        rw [displayed]
        exact same
  · intro event member
    exact member
  · exact ⟨rfl, rfl⟩

end Untimed

end WelcomeViewController

namespace Slideshow

def own (screen : Nat) (past : List (Nat × SlideEvent)) : List SlideEvent :=
  (past.filter fun told => told.1 = screen).map Prod.snd

structure Told (width : CGFloat) (past : List (Nat × SlideEvent)) (slideshow : Slideshow) : Prop where
  owned : slideshow.Owned
  follows : ∀ screen, (slideshow.controllers screen).Follows width (own screen past)
  unloaded : ∀ screen, (slideshow.controllers screen).isViewLoaded = false → own screen past = []

section Steps

variable (width : CGFloat) (past : List (Nat × SlideEvent)) (slideshow : Slideshow)

theorem own_same (screen : Nat) (slide : SlideEvent) : own screen (past ++ [(screen, slide)]) = own screen past ++ [slide] := by
  simp [own]

theorem own_other (screen other : Nat) (slide : SlideEvent) (apart : other ≠ screen) :
    own screen (past ++ [(other, slide)]) = own screen past := by
  simp [own, apart]

theorem tell_self (screen : Nat) (slide : SlideEvent) :
    (slideshow.tell screen slide).controllers screen = (slideshow.controllers screen).handle slide :=
  Function.update_self _ _ _

theorem tell_other (screen other : Nat) (slide : SlideEvent) (apart : other ≠ screen) :
    (slideshow.tell screen slide).controllers other = slideshow.controllers other :=
  Function.update_of_ne apart _ _

theorem told_loaded (event : LifeCycleEvent) (screen : Nat) (slide : SlideEvent) (owned : slideshow.Owned)
    (tells : slideshow.told event = [(screen, slide)]) :
    (slideshow.controllers screen).isViewLoaded = true ∧ (slideshow.controllers screen).receives slide = true := by
  cases event with
  | viewWillAppear other => cases tells
  | viewWillDisappear other => cases tells
  | timerFires timer =>
      rw [told] at tells
      split at tells
      · rename_i due
        obtain ⟨rfl, rfl⟩ := Prod.mk.inj (List.head_eq_of_cons_eq tells)
        exact ⟨owned.loaded _ (targets_on_screen slideshow owned timer due), rfl⟩
      · cases tells
  | swipe other page =>
      rw [told] at tells
      split at tells
      · rename_i both
        obtain ⟨rfl, rfl⟩ := Prod.mk.inj (List.head_eq_of_cons_eq tells)
        exact both
      · cases tells
  | willDisplay other row =>
      rw [told] at tells
      split at tells
      · rename_i both
        obtain ⟨rfl, rfl⟩ := Prod.mk.inj (List.head_eq_of_cons_eq tells)
        exact both
      · cases tells

theorem appear_controllers (screen other : Nat) :
    (slideshow.viewWillAppear screen).controllers other = slideshow.controllers other ∨
      (other = screen ∧ (slideshow.controllers screen).isViewLoaded = false ∧
        (slideshow.viewWillAppear screen).controllers other =
          { (slideshow.controllers screen).setUpPageControl with
            isViewLoaded := true
            autoScrollTimer := some slideshow.nextTimer }) := by
  cases loaded : (slideshow.controllers screen).isViewLoaded with
  | true => exact .inl (by simp [viewWillAppear, loadViewIfNeeded, loaded])
  | false =>
      by_cases same : other = screen
      · subst same
        exact .inr ⟨rfl, rfl, by simp [viewWillAppear, loadViewIfNeeded, loaded, viewDidLoad, startAutoScroll, setController]⟩
      · exact .inl (by simp [viewWillAppear, loadViewIfNeeded, loaded, viewDidLoad, startAutoScroll, setController, same])

theorem appear_told (screen : Nat) (hidden : screen ∉ slideshow.onScreen) (told : slideshow.Told width past) :
    (slideshow.viewWillAppear screen).Told width past := by
  refine ⟨appear_owned slideshow screen hidden told.owned, ?_, ?_⟩
  · intro other
    rcases appear_controllers slideshow screen other with same | ⟨rfl, unloaded, first⟩
    · rw [same]
      exact told.follows other
    · have follows := told.follows other
      rw [told.unloaded other unloaded] at follows ⊢
      have start := WelcomeViewController.set_up_follows width _ follows
      rw [first]
      exact ⟨start.page, start.control, start.view, start.scrolled⟩
  · intro other still
    rcases appear_controllers slideshow screen other with same | ⟨rfl, unloaded, first⟩
    · rw [same] at still
      exact told.unloaded other still
    · exact told.unloaded other unloaded

theorem disappear_controllers (screen other : Nat) :
    (slideshow.viewWillDisappear screen).controllers other = slideshow.controllers other ∨
      (slideshow.viewWillDisappear screen).controllers other = { slideshow.controllers other with autoScrollTimer := none } := by
  have invalidated : ∀ timer, (slideshow.invalidate timer).controllers = slideshow.controllers := by
    intro timer
    cases timer with
    | none => rfl
    | some id => rfl
  by_cases same : other = screen
  · subst same
    refine .inr ?_
    simp [viewWillDisappear, stopAutoScroll, setController]
  · refine .inl ?_
    simp [viewWillDisappear, stopAutoScroll, setController, same, invalidated]

theorem disappear_told (screen : Nat) (told : slideshow.Told width past) :
    (slideshow.viewWillDisappear screen).Told width past := by
  refine ⟨disappear_owned slideshow screen told.owned, ?_, ?_⟩
  · intro other
    have follows := told.follows other
    rcases disappear_controllers slideshow screen other with same | stopped
    · rw [same]
      exact follows
    · rw [stopped]
      exact ⟨follows.page, follows.control, follows.view, follows.scrolled⟩
  · intro other still
    apply told.unloaded other
    rcases disappear_controllers slideshow screen other with same | stopped
    · rwa [same] at still
    · rwa [stopped] at still

theorem tell_told (event : LifeCycleEvent) (screen : Nat) (slide : SlideEvent) (wide : 50 < width)
    (tells : slideshow.told event = [(screen, slide)]) (told : slideshow.Told width past) :
    (slideshow.tell screen slide).Told width (past ++ [(screen, slide)]) := by
  obtain ⟨loaded, received⟩ := told_loaded slideshow event screen slide told.owned tells
  obtain ⟨next, stepped, follows⟩ :=
    WelcomeViewController.step_follows width _ _ slide wide received (told.follows screen)
  have handled : (slideshow.controllers screen).handle slide = next := by
    rw [WelcomeViewController.handle, stepped, Option.getD_some]
  refine ⟨tell_owned slideshow screen slide told.owned, ?_, ?_⟩
  · intro other
    by_cases same : other = screen
    · subst same
      rw [own_same, tell_self, handled]
      exact follows
    · rw [own_other past other screen slide (Ne.symm same), tell_other slideshow screen other slide same]
      exact told.follows other
  · intro other still
    by_cases same : other = screen
    · subst same
      rw [tell_self, (handle_frame _ slide).1, loaded] at still
      cases still
    · rw [tell_other slideshow screen other slide same] at still
      rw [own_other past other screen slide (Ne.symm same)]
      exact told.unloaded other still

theorem step_told (event : LifeCycleEvent) (wide : 50 < width) (told : slideshow.Told width past) :
    (slideshow.step event).Told width (past ++ slideshow.told event) := by
  have effect := step_effect slideshow event
  generalize slideshow.step event = after at effect
  cases effect with
  | idle _ silent met =>
      rw [silent, List.append_nil]
      exact told
  | appeared screen hidden =>
      rw [Slideshow.told, List.append_nil]
      exact appear_told width past slideshow screen hidden told
  | disappeared screen shown =>
      rw [Slideshow.told, List.append_nil]
      exact disappear_told width past slideshow screen told
  | told _ screen slide tells met =>
      rw [tells]
      exact tell_told width past slideshow event screen slide wide tells told

structure Stopped (screen : Nat) : Prop where
  loaded : (slideshow.controllers screen).isViewLoaded = true
  timer : (slideshow.controllers screen).autoScrollTimer = none

theorem hidden_stopped (screen : Nat) (owned : slideshow.Owned)
    (loaded : (slideshow.controllers screen).isViewLoaded = true) (hidden : screen ∉ slideshow.onScreen) :
    slideshow.Stopped screen := by
  refine ⟨loaded, ?_⟩
  cases running : (slideshow.controllers screen).autoScrollTimer with
  | none => rfl
  | some id =>
      have scheduled := (owned.known screen id).mp running
      exact absurd (targets_on_screen slideshow owned _ scheduled) hidden

theorem stopped_untimed (screen : Nat) (event : LifeCycleEvent) (owned : slideshow.Owned) (stopped : slideshow.Stopped screen) :
    .autoScrollToNextPage ∉ own screen (slideshow.told event) := by
  intro member
  obtain ⟨⟨other, slide⟩, tells, same⟩ := List.mem_map.mp member
  obtain ⟨among, mine⟩ := List.mem_filter.mp tells
  obtain rfl : other = screen := of_decide_eq_true mine
  obtain rfl : slide = .autoScrollToNextPage := same
  cases event with
  | timerFires timer =>
      rw [told] at among
      split at among
      · rename_i due
        have running := (owned.known timer.target timer.id).mpr due
        obtain ⟨rfl, _⟩ := Prod.mk.inj (List.mem_singleton.mp among)
        rw [stopped.timer] at running
        cases running
      · cases among
  | swipe other page =>
      rw [told] at among
      split at among
      · cases (Prod.mk.inj (List.mem_singleton.mp among)).2
      · cases among
  | willDisplay other row =>
      rw [told] at among
      split at among
      · cases (Prod.mk.inj (List.mem_singleton.mp among)).2
      · cases among
  | _ => cases among

theorem stopped_controller (screen : Nat) (event : LifeCycleEvent) (stopped : slideshow.Stopped screen) :
    (slideshow.step event).controllers screen =
      run WelcomeViewController.handle (slideshow.controllers screen) (own screen (slideshow.told event)) := by
  have effect := step_effect slideshow event
  generalize slideshow.step event = after at effect
  cases effect with
  | idle _ silent met =>
      rw [silent]
      rfl
  | appeared other hidden =>
      rcases appear_controllers slideshow other screen with same | ⟨rfl, unloaded, _⟩
      · exact same
      · rw [stopped.loaded] at unloaded
        cases unloaded
  | disappeared other shown =>
      rcases disappear_controllers slideshow other screen with same | cleared
      · exact same
      · rw [cleared, ← stopped.timer]
        rfl
  | told _ other slide tells met =>
      rw [tells]
      by_cases same : other = screen
      · subst same
        rw [tell_self]
        simp [own]
      · rw [tell_other slideshow other screen slide (Ne.symm same)]
        simp [own, same]

theorem step_stopped (screen : Nat) (event : LifeCycleEvent) (stopped : slideshow.Stopped screen) :
    (slideshow.step event).Stopped screen := by
  have kept : ∀ slides, (run WelcomeViewController.handle (slideshow.controllers screen) slides).isViewLoaded = true ∧
      (run WelcomeViewController.handle (slideshow.controllers screen) slides).autoScrollTimer = none := by
    intro slides
    apply invariant_run WelcomeViewController.handle
      (fun controller => controller.isViewLoaded = true ∧ controller.autoScrollTimer = none)
    · intro controller slide held
      have frame := handle_frame controller slide
      exact ⟨frame.1.trans held.1, frame.2.trans held.2⟩
    · exact ⟨stopped.loaded, stopped.timer⟩
  have moved := kept (own screen (slideshow.told event))
  rw [← stopped_controller slideshow screen event stopped] at moved
  exact ⟨moved.1, moved.2⟩

end Steps

theorem launched_told (width : CGFloat) : (launched width).Told width [] := by
  refine ⟨launched_owned width, ?_, ?_⟩
  · intro screen
    exact WelcomeViewController.from_nib_follows width
  · intro screen _
    rfl

end Slideshow

-- Over any run of any number of welcome screens, each one shows what its own ticks, swipes
-- and displayed rows say, nobody else's timer moves it, and no scroll raises.
theorem pages_count_ticks (width : CGFloat) (wide : 50 < width) (events : List LifeCycleEvent) (screen : Nat) :
    ((run Slideshow.step (Slideshow.launched width) events).controllers screen).Follows width
        (Slideshow.own screen (outputs Slideshow.step Slideshow.told (Slideshow.launched width) events)) ∧
      ∀ slide, ∃ next, ((run Slideshow.step (Slideshow.launched width) events).controllers screen).step slide = some next := by
  have told := invariant_outputs Slideshow.step Slideshow.told (Slideshow.Told width)
    (fun past slideshow event told => Slideshow.step_told width past slideshow event wide told) (Slideshow.launched width)
    events (Slideshow.launched_told width)
  refine ⟨told.follows screen, ?_⟩
  intro slide
  exact WelcomeViewController.never_raises width _ _ slide wide (told.follows screen)

theorem anna_swipes_the_slides :
    ((run Slideshow.step (Slideshow.launched 414)
      [.viewWillAppear 0, .timerFires ⟨0, 0⟩, .swipe 0 2, .timerFires ⟨0, 0⟩, .willDisplay 0 1]).controllers 0).Follows 414
        [.autoScrollToNextPage, .swipe 2, .autoScrollToNextPage, .willDisplay 1] := by
  have follows := (pages_count_ticks 414 (by norm_num)
    [.viewWillAppear 0, .timerFires ⟨0, 0⟩, .swipe 0 2, .timerFires ⟨0, 0⟩, .willDisplay 0 1] 0).1
  have own : Slideshow.own 0 (outputs Slideshow.step Slideshow.told (Slideshow.launched 414)
      [.viewWillAppear 0, .timerFires ⟨0, 0⟩, .swipe 0 2, .timerFires ⟨0, 0⟩, .willDisplay 0 1]) =
      [.autoScrollToNextPage, .swipe 2, .autoScrollToNextPage, .willDisplay 1] := by decide +kernel
  rwa [own] at follows

example : slideAfter [.swipe 2, .autoScrollToNextPage, .willDisplay 1] = 0 ∧
    rowAfter [.swipe 2, .autoScrollToNextPage, .willDisplay 1] = 1 := by decide

-- A slideshow that has left the screen is never again moved by a timer or a life cycle,
-- also when it is shown again: only the user's swipes and the rows displayed to it do.
theorem slideshow_left_stands_still (width : CGFloat) (before after : List LifeCycleEvent) (screen : Nat)
    (loaded : ((run Slideshow.step (Slideshow.launched width) before).controllers screen).isViewLoaded = true)
    (hidden : screen ∉ (run Slideshow.step (Slideshow.launched width) before).onScreen) :
    let left := run Slideshow.step (Slideshow.launched width) before
    let own := Slideshow.own screen (outputs Slideshow.step Slideshow.told left after)
    let reached := (run Slideshow.step left after).controllers screen
    .autoScrollToNextPage ∉ own ∧ reached = run WelcomeViewController.handle (left.controllers screen) own ∧
      reached.scrolledTo = (left.controllers screen).scrolledTo ∧
      ((∀ page, .swipe page ∉ own) → reached.currentPage = (left.controllers screen).currentPage ∧
        reached.homeScreenSlideCollectionView = (left.controllers screen).homeScreenSlideCollectionView) := by
  intro left own reached
  have owned := invariant_run Slideshow.step Slideshow.Owned Slideshow.step_owned (Slideshow.launched width) before
    (Slideshow.launched_owned width)
  have stopped := Slideshow.hidden_stopped left screen owned loaded hidden
  have kept := invariant_outputs Slideshow.step Slideshow.told
    (fun past reached => (reached.Owned ∧ reached.Stopped screen) ∧ .autoScrollToNextPage ∉ Slideshow.own screen past ∧
      reached.controllers screen = run WelcomeViewController.handle (left.controllers screen) (Slideshow.own screen past)) (by
      intro past reached event held
      obtain ⟨⟨owned, stopped⟩, untimed, same⟩ := held
      have split : Slideshow.own screen (past ++ reached.told event) =
          Slideshow.own screen past ++ Slideshow.own screen (reached.told event) := by simp [Slideshow.own]
      rw [split]
      refine ⟨⟨Slideshow.step_owned reached event owned, Slideshow.step_stopped reached screen event stopped⟩, ?_, ?_⟩
      · intro member
        rcases List.mem_append.mp member with old | new
        · exact untimed old
        · exact Slideshow.stopped_untimed reached screen event owned stopped new
      · rw [Slideshow.stopped_controller reached screen event stopped, same, run_append])
    left after ⟨⟨owned, stopped⟩, List.not_mem_nil, rfl⟩
  obtain ⟨_, untimed, same⟩ := kept
  refine ⟨untimed, same, ?_, ?_⟩
  · rw [show reached = _ from same]
    exact WelcomeViewController.run_unscrolled _ _ untimed
  · rw [show reached = _ from same]
    exact WelcomeViewController.run_in_place _ _ untimed

theorem welcome_stays_on_its_slide :
    let left := run Slideshow.step (Slideshow.launched 414) [.viewWillAppear 0, .timerFires ⟨0, 0⟩, .viewWillDisappear 0]
    (left.controllers 0).currentPage = 1 ∧
      (run Slideshow.step left [.viewWillAppear 0, .timerFires ⟨0, 0⟩]).controllers 0 = left.controllers 0 ∧
      (run Slideshow.step left [.viewWillAppear 0, .timerFires ⟨0, 0⟩, .swipe 0 2]).controllers 0 =
        (left.controllers 0).handle (.swipe 2) := by
  intro left
  have resting := slideshow_left_stands_still 414 [.viewWillAppear 0, .timerFires ⟨0, 0⟩, .viewWillDisappear 0]
    [.viewWillAppear 0, .timerFires ⟨0, 0⟩] 0 (by decide) (by decide)
  have swiped := slideshow_left_stands_still 414 [.viewWillAppear 0, .timerFires ⟨0, 0⟩, .viewWillDisappear 0]
    [.viewWillAppear 0, .timerFires ⟨0, 0⟩, .swipe 0 2] 0 (by decide) (by decide)
  exact ⟨by decide, resting.2.1, swiped.2.1⟩

end DuplicatedApps
