import Mathlib.Data.Rat.Floor
import DuplicatedApps.Rounding
import DuplicatedApps.Runs

set_option autoImplicit false

namespace DuplicatedApps

open Runs

abbrev CGFloat := Rat

def Constants.itemSpacing : CGFloat := 5

def minimumLineSpacing : CGFloat := 10

structure SlideCollectionView where
  width : CGFloat
  contentOffset : CGFloat
deriving DecidableEq

namespace SlideCollectionView

def sizeForItemAt (view : SlideCollectionView) : CGFloat := view.width - Constants.itemSpacing * 2

def insetForSectionAt (_view : SlideCollectionView) : CGFloat := Constants.itemSpacing

def itemOrigin (view : SlideCollectionView) (item : Int) : CGFloat :=
  view.insetForSectionAt + item * (view.sizeForItemAt + minimumLineSpacing)

def contentWidth (view : SlideCollectionView) (items : Int) : CGFloat :=
  view.insetForSectionAt + items * view.sizeForItemAt + (items - 1) * minimumLineSpacing + view.insetForSectionAt

-- UIKit raises for an item that does not exist and otherwise centres it as far as the
-- content reaches; an animated scroll is taken at its end.
def scrollToItem (view : SlideCollectionView) (items item : Int) : Option SlideCollectionView :=
  if 0 ≤ item ∧ item < items then
    let centred := view.itemOrigin item + view.sizeForItemAt / 2 - view.width / 2
    some { view with contentOffset := max 0 (min centred (view.contentWidth items - view.width)) }
  else none

def comesToRest (view : SlideCollectionView) (page : Nat) : SlideCollectionView :=
  { view with contentOffset := page * view.width }

def getIndexFromItemPosition (view : SlideCollectionView) : Option Int :=
  let itemWidth := view.width - Constants.itemSpacing * 2
  if itemWidth = 0 then none
  else
    let proportionalOffset := view.contentOffset / itemWidth
    some (Rounding.awayFromZero proportionalOffset)

end SlideCollectionView

structure UIPageControl where
  currentPage : Int
  numberOfPages : Int
deriving DecidableEq

-- The setter pins the page to the pages there are.
def UIPageControl.setCurrentPage (control : UIPageControl) (page : Int) : UIPageControl :=
  { control with currentPage := max 0 (min page (control.numberOfPages - 1)) }

structure WelcomeViewController where
  isViewLoaded : Bool
  currentPage : Int
  slidePageControl : UIPageControl
  homeScreenSlideCollectionView : SlideCollectionView
  autoScrollTimer : Option Nat
  scrolledTo : List Int
deriving DecidableEq

inductive SlideEvent where
  | autoScrollToNextPage
  | swipe (page : Nat)
  | willDisplay (row : Nat)
deriving DecidableEq

namespace WelcomeViewController

def fromNib (width : CGFloat) : WelcomeViewController := ⟨false, 0, ⟨0, 3⟩, ⟨width, 0⟩, none, []⟩

def setUpPageControl (screen : WelcomeViewController) : WelcomeViewController :=
  { screen with slidePageControl := { screen.slidePageControl.setCurrentPage 0 with numberOfPages := 3 } }

def numberOfItemsInSection (screen : WelcomeViewController) : Int := screen.slidePageControl.numberOfPages

def setPage (screen : WelcomeViewController) (page : Int) : WelcomeViewController :=
  { screen with
    currentPage := page
    slidePageControl := screen.slidePageControl.setCurrentPage page }

def scrollToPage (screen : WelcomeViewController) (page : Int) : Option WelcomeViewController :=
  (screen.homeScreenSlideCollectionView.scrollToItem screen.numberOfItemsInSection page).map fun view =>
    { screen with
      homeScreenSlideCollectionView := view
      scrolledTo := screen.scrolledTo ++ [page] }.setPage page

def autoScrollToNextPage (screen : WelcomeViewController) : Option WelcomeViewController :=
  let nextPage := screen.currentPage + 1
  if nextPage < screen.slidePageControl.numberOfPages then screen.scrollToPage nextPage else screen.scrollToPage 0

def scrollViewDidEndDecelerating (screen : WelcomeViewController) : Option WelcomeViewController :=
  screen.homeScreenSlideCollectionView.getIndexFromItemPosition.map screen.setPage

def swipe (screen : WelcomeViewController) (page : Nat) : Option WelcomeViewController :=
  scrollViewDidEndDecelerating
    { screen with homeScreenSlideCollectionView := screen.homeScreenSlideCollectionView.comesToRest page }

def willDisplay (screen : WelcomeViewController) (row : Nat) : WelcomeViewController :=
  { screen with slidePageControl := screen.slidePageControl.setCurrentPage row }

def receives (screen : WelcomeViewController) : SlideEvent → Bool
  | .autoScrollToNextPage => true
  | .swipe page => decide ((page : Int) < screen.numberOfItemsInSection)
  | .willDisplay row => decide ((row : Int) < screen.numberOfItemsInSection)

-- What raises or traps has no next state.
def step (screen : WelcomeViewController) (event : SlideEvent) : Option WelcomeViewController :=
  if screen.receives event then
    match event with
    | .autoScrollToNextPage => screen.autoScrollToNextPage
    | .swipe page => screen.swipe page
    | .willDisplay row => some (screen.willDisplay row)
  else some screen

theorem step_unreceived (screen : WelcomeViewController) (event : SlideEvent) (unreceived : ¬ screen.receives event = true) :
    screen.step event = some screen := if_neg unreceived

theorem step_frame (screen next : WelcomeViewController) (event : SlideEvent) (stepped : screen.step event = some next) :
    next.isViewLoaded = screen.isViewLoaded ∧ next.autoScrollTimer = screen.autoScrollTimer := by
  have scrolls : ∀ page, screen.scrollToPage page = some next →
      next.isViewLoaded = screen.isViewLoaded ∧ next.autoScrollTimer = screen.autoScrollTimer := by
    intro page scrolled
    obtain ⟨view, _, rfl⟩ := Option.map_eq_some_iff.mp scrolled
    exact ⟨rfl, rfl⟩
  by_cases received : screen.receives event = true
  · cases event with
    | autoScrollToNextPage =>
        rw [step, if_pos received] at stepped
        simp only [autoScrollToNextPage] at stepped
        split at stepped
        · exact scrolls _ stepped
        · exact scrolls _ stepped
    | swipe page =>
        rw [step, if_pos received] at stepped
        obtain ⟨index, _, rfl⟩ := Option.map_eq_some_iff.mp stepped
        exact ⟨rfl, rfl⟩
    | willDisplay row =>
        rw [step, if_pos received] at stepped
        obtain rfl := Option.some.inj stepped
        exact ⟨rfl, rfl⟩
  · rw [step_unreceived screen event received] at stepped
    obtain rfl := Option.some.inj stepped
    exact ⟨rfl, rfl⟩

def loaded (slides : Nat) (width : CGFloat) : WelcomeViewController :=
  let screen := (fromNib width).setUpPageControl
  { screen with
    isViewLoaded := true
    slidePageControl := { screen.slidePageControl with numberOfPages := slides } }

example (width : CGFloat) : loaded 3 width = { (fromNib width).setUpPageControl with isViewLoaded := true } := rfl

structure ShowsSlide (screen : WelcomeViewController) (slide : Int) : Prop where
  page : screen.currentPage = slide
  control : screen.slidePageControl.currentPage = slide
  position : screen.homeScreenSlideCollectionView.contentOffset = slide * screen.homeScreenSlideCollectionView.width

structure PagesAgree (slides : Nat) (screen : WelcomeViewController) : Prop where
  inRange : 0 ≤ screen.currentPage ∧ screen.currentPage < slides
  asked : ∀ item ∈ screen.scrolledTo, 0 ≤ item ∧ item < slides
  tick : ∃ next, screen.step .autoScrollToNextPage = some next ∧
    next.scrolledTo = screen.scrolledTo ++ [(screen.currentPage + 1) % slides] ∧
    next.ShowsSlide ((screen.currentPage + 1) % slides)
  layout : ∀ page : Nat, page < slides → screen.homeScreenSlideCollectionView.scrollToItem slides page =
    some (screen.homeScreenSlideCollectionView.comesToRest page)
  index : ∀ page : Nat, page < slides →
    (screen.homeScreenSlideCollectionView.comesToRest page).getIndexFromItemPosition = some ↑page
  swipe : ∀ page : Nat, page < slides → ∃ next, screen.step (.swipe page) = some next ∧ next.ShowsSlide page

structure OnSlide (slides : Nat) (width : CGFloat) (screen : WelcomeViewController) : Prop where
  pages : screen.slidePageControl.numberOfPages = slides
  inRange : 0 ≤ screen.currentPage ∧ screen.currentPage < slides
  asked : ∀ item ∈ screen.scrolledTo, 0 ≤ item ∧ item < slides
  view : screen.homeScreenSlideCollectionView = ⟨width, screen.currentPage * width⟩

section Layout

variable (view : SlideCollectionView)

theorem scroll_to_item_offset (items item : Int) (exists_item : 0 ≤ item ∧ item < items) (width : 0 ≤ view.width) :
    view.scrollToItem items item = some { view with contentOffset := item * view.width } := by
  have centred : view.itemOrigin item + view.sizeForItemAt / 2 - view.width / 2 = item * view.width := by
    simp only [SlideCollectionView.itemOrigin, SlideCollectionView.sizeForItemAt,
      SlideCollectionView.insetForSectionAt, Constants.itemSpacing, minimumLineSpacing]
    ring
  have farthest : view.contentWidth items - view.width = (items - 1) * view.width := by
    simp only [SlideCollectionView.contentWidth, SlideCollectionView.sizeForItemAt,
      SlideCollectionView.insetForSectionAt, Constants.itemSpacing, minimumLineSpacing]
    ring
  have first : (0 : CGFloat) ≤ item := Int.cast_nonneg exists_item.1
  have last : (item : CGFloat) ≤ items - 1 := by
    have before : item ≤ items - 1 := by omega
    exact_mod_cast before
  have reached : (item : CGFloat) * view.width ≤ (items - 1) * view.width := mul_le_mul_of_nonneg_right last width
  rw [SlideCollectionView.scrollToItem, if_pos exists_item]
  simp only [centred, farthest, min_eq_left reached, max_eq_right (mul_nonneg first width)]

theorem index_at_rest_iff (page : Nat) (wide : 10 < view.width) :
    (view.comesToRest page).getIndexFromItemPosition = some ↑page ↔ 10 + 20 * (page : CGFloat) < view.width := by
  have itemWidth : view.width - Constants.itemSpacing * 2 = view.width - 10 := by
    rw [Constants.itemSpacing]
    norm_num
  have positive : 0 < view.width - 10 := by linarith
  simp only [SlideCollectionView.getIndexFromItemPosition, SlideCollectionView.comesToRest, itemWidth,
    if_neg positive.ne', Option.some.injEq]
  have grid := Rounding.grid_index_iff (page : Int) view.width (view.width - 10) (Int.natCast_nonneg page) positive
    (by linarith)
  rw [Int.cast_natCast] at grid
  rw [grid]
  constructor
  · intro absorbed
    linarith
  · intro bound
    linarith

theorem index_at_rest (slides page : Nat) (shown : page < slides)
    (wide : 10 + 20 * ((slides : CGFloat) - 1) < view.width) :
    (view.comesToRest page).getIndexFromItemPosition = some ↑page := by
  have before : (page : CGFloat) + 1 ≤ slides := by exact_mod_cast shown
  have first : (0 : CGFloat) ≤ page := Nat.cast_nonneg page
  apply (index_at_rest_iff view page (by linarith)).mpr
  linarith

end Layout

theorem set_current_page (control : UIPageControl) (page : Int)
    (inRange : 0 ≤ page ∧ page < control.numberOfPages) : (control.setCurrentPage page).currentPage = page := by
  rw [UIPageControl.setCurrentPage]
  have below : min page (control.numberOfPages - 1) = page := min_eq_left (by omega)
  rw [below, max_eq_right inRange.1]

section Steps

variable (slides : Nat) (width : CGFloat) (screen : WelcomeViewController)

theorem next_page_wraps (valid : screen.OnSlide slides width) :
    screen.autoScrollToNextPage = screen.scrollToPage ((screen.currentPage + 1) % slides) := by
  rw [autoScrollToNextPage, valid.pages]
  by_cases more : screen.currentPage + 1 < slides
  · have first := valid.inRange.1
    rw [if_pos more, Int.emod_eq_of_lt (by omega) more]
  · have last : screen.currentPage + 1 = slides := by
      have inRange := valid.inRange
      omega
    rw [if_neg more, last, Int.emod_self]

theorem next_page_in_range (valid : screen.OnSlide slides width) :
    0 ≤ (screen.currentPage + 1) % slides ∧ (screen.currentPage + 1) % slides < slides := by
  have positive : (0 : Int) < slides := by
    have inRange := valid.inRange
    omega
  exact ⟨Int.emod_nonneg _ positive.ne', Int.emod_lt_of_pos _ positive⟩

theorem tick_step (valid : screen.OnSlide slides width) (nonneg : 0 ≤ width) :
    screen.step .autoScrollToNextPage = some ({ screen with
      homeScreenSlideCollectionView := ⟨width, ((screen.currentPage + 1) % slides : Int) * width⟩
      scrolledTo := screen.scrolledTo ++ [(screen.currentPage + 1) % slides] }.setPage
        ((screen.currentPage + 1) % slides)) := by
  have target := next_page_in_range slides width screen valid
  have bounds : 0 ≤ screen.homeScreenSlideCollectionView.width := by
    rw [valid.view]
    exact nonneg
  have scrolled := scroll_to_item_offset screen.homeScreenSlideCollectionView _ _ target bounds
  rw [valid.view] at scrolled
  have always : screen.receives .autoScrollToNextPage = true := rfl
  rw [step, if_pos always]
  simp only [next_page_wraps slides width screen valid, scrollToPage, numberOfItemsInSection, valid.pages, valid.view, scrolled,
    Option.map_some]

theorem swipe_step (page : Nat) (shown : page < slides) (wide : 10 + 20 * ((slides : CGFloat) - 1) < width)
    (valid : screen.OnSlide slides width) :
    screen.step (.swipe page) =
      some ({ screen with homeScreenSlideCollectionView := ⟨width, page * width⟩ }.setPage page) := by
  have named : screen.receives (.swipe page) = true := by
    simp only [receives, numberOfItemsInSection, valid.pages, decide_eq_true_eq]
    exact_mod_cast shown
  have rest : screen.homeScreenSlideCollectionView.comesToRest page = ⟨width, page * width⟩ := by
    rw [valid.view, SlideCollectionView.comesToRest]
  have bounds : 10 + 20 * ((slides : CGFloat) - 1) < screen.homeScreenSlideCollectionView.width := by
    rw [valid.view]
    exact wide
  have index := index_at_rest screen.homeScreenSlideCollectionView slides page shown bounds
  rw [rest] at index
  rw [step, if_pos named]
  simp only [swipe, scrollViewDidEndDecelerating, rest, index, Option.map_some]

theorem tick_valid (valid : screen.OnSlide slides width) :
    OnSlide slides width ({ screen with
      homeScreenSlideCollectionView := ⟨width, ((screen.currentPage + 1) % slides : Int) * width⟩
      scrolledTo := screen.scrolledTo ++ [(screen.currentPage + 1) % slides] }.setPage
        ((screen.currentPage + 1) % slides)) := by
  have target := next_page_in_range slides width screen valid
  refine ⟨valid.pages, target, ?_, rfl⟩
  intro item member
  rcases List.mem_append.mp member with old | new
  · exact valid.asked item old
  · rw [List.mem_singleton.mp new]
    exact target

theorem swipe_valid (page : Nat) (shown : page < slides) (valid : screen.OnSlide slides width) :
    OnSlide slides width ({ screen with homeScreenSlideCollectionView := ⟨width, page * width⟩ }.setPage page) := by
  have inRange : 0 ≤ (page : Int) ∧ (page : Int) < slides := ⟨Int.natCast_nonneg page, by exact_mod_cast shown⟩
  refine ⟨valid.pages, inRange, valid.asked, ?_⟩
  simp only [setPage, Int.cast_natCast]

theorem receives_iff (valid : screen.OnSlide slides width) (page : Nat) :
    (screen.receives (.swipe page) = true ↔ page < slides) ∧ (screen.receives (.willDisplay page) = true ↔ page < slides) := by
  simp only [receives, numberOfItemsInSection, valid.pages, decide_eq_true_eq, Int.ofNat_lt, and_self]

theorem step_valid (event : SlideEvent) (wide : 10 + 20 * ((slides : CGFloat) - 1) < width) (nonneg : 0 ≤ width)
    (valid : screen.OnSlide slides width) :
    ∃ next, screen.step event = some next ∧ next.OnSlide slides width := by
  by_cases received : screen.receives event = true
  · cases event with
    | autoScrollToNextPage => exact ⟨_, tick_step slides width screen valid nonneg, tick_valid slides width screen valid⟩
    | swipe page =>
        have shown := (receives_iff slides width screen valid page).1.mp received
        exact ⟨_, swipe_step slides width screen page shown wide valid, swipe_valid slides width screen page shown valid⟩
    | willDisplay row =>
        exact ⟨screen.willDisplay row, if_pos received, ⟨valid.pages, valid.inRange, valid.asked, valid.view⟩⟩
  · exact ⟨screen, step_unreceived screen event received, valid⟩

theorem loaded_valid (positive : 1 ≤ slides) : (loaded slides width).OnSlide slides width := by
  have first : (0 : Int) < slides := by exact_mod_cast positive
  refine ⟨rfl, ⟨Int.le_refl 0, first⟩, ?_, ?_⟩
  · intro item member
    exact absurd member List.not_mem_nil
  · simp [loaded, setUpPageControl, fromNib]

theorem valid_agrees (wide : 10 + 20 * ((slides : CGFloat) - 1) < width) (nonneg : 0 ≤ width)
    (valid : screen.OnSlide slides width) : screen.PagesAgree slides := by
  apply PagesAgree.mk valid.inRange valid.asked
  · have target := next_page_in_range slides width screen valid
    refine ⟨_, tick_step slides width screen valid nonneg, rfl, ⟨rfl, ?_, rfl⟩⟩
    exact set_current_page screen.slidePageControl _ (by rw [valid.pages]; exact target)
  · intro page shown
    have exists_page : 0 ≤ (page : Int) ∧ (page : Int) < slides := ⟨Int.natCast_nonneg page, by exact_mod_cast shown⟩
    have bounds : 0 ≤ screen.homeScreenSlideCollectionView.width := by
      rw [valid.view]
      exact nonneg
    rw [scroll_to_item_offset screen.homeScreenSlideCollectionView slides page exists_page bounds, Int.cast_natCast]
    rfl
  · intro page shown
    apply index_at_rest screen.homeScreenSlideCollectionView slides page shown
    rw [valid.view]
    exact wide
  · intro page shown
    refine ⟨_, swipe_step slides width screen page shown wide valid, ⟨rfl, ?_, ?_⟩⟩
    · apply set_current_page screen.slidePageControl
      rw [valid.pages]
      exact ⟨Int.natCast_nonneg page, by exact_mod_cast shown⟩
    · simp only [setPage, Int.cast_natCast]

end Steps

end WelcomeViewController

theorem slide_pages_agree (slides : Nat) (width : CGFloat) (positive : 1 ≤ slides)
    (wide : 10 + 20 * ((slides : CGFloat) - 1) < width) (events : List SlideEvent) :
    ∀ reached ∈ trace (attempt WelcomeViewController.step) (some (WelcomeViewController.loaded slides width)) events,
      ∃ screen, reached = some screen ∧ screen.PagesAgree slides := by
  have nonneg : 0 ≤ width := by
    have first : (1 : CGFloat) ≤ slides := by exact_mod_cast positive
    linarith
  have valid := invariant_attempts WelcomeViewController.step (WelcomeViewController.OnSlide slides width)
    (fun screen event holds => WelcomeViewController.step_valid slides width screen event wide nonneg holds)
    (WelcomeViewController.loaded slides width) events (WelcomeViewController.loaded_valid slides width positive)
  intro reached member
  obtain ⟨screen, same, onSlide⟩ := valid reached member
  exact ⟨screen, same, WelcomeViewController.valid_agrees slides width screen wide nonneg onSlide⟩

theorem slide_pages_agree_in_nib :
    ∃ screen, run (attempt WelcomeViewController.step) (some (WelcomeViewController.loaded 3 414))
      [.autoScrollToNextPage, .swipe 2, .willDisplay 1, .autoScrollToNextPage] = some screen ∧ screen.PagesAgree 3 :=
  slide_pages_agree 3 414 (by decide) (by norm_num) _ _ (run_mem_trace _ _ _)

end DuplicatedApps
