import DuplicatedApps.Foundation
import DuplicatedApps.Runs

set_option autoImplicit false

namespace DuplicatedApps

open Runs

structure UIImage where
  named : String
deriving DecidableEq

namespace AppImages

def facebookIcon : UIImage := ⟨"ic_facebook"⟩
def twitterIcon : UIImage := ⟨"ic_twitter"⟩
def instagramIcon : UIImage := ⟨"ic_instagram"⟩
def linkedinIcon : UIImage := ⟨"ic_linkedin"⟩
def snapchatIcon : UIImage := ⟨"ic_snapchat"⟩
def tiktokIcon : UIImage := ⟨"ic_tiktok"⟩
def pinterestIcon : UIImage := ⟨"ic_pinterest"⟩
def whatsappIcon : UIImage := ⟨"ic_whatsapp"⟩
def redditIcon : UIImage := ⟨"ic_reddit"⟩
def tumblrIcon : UIImage := ⟨"ic_tumblr"⟩
def wechatIcon : UIImage := ⟨"ic_wechat"⟩
def sinaweiboIcon : UIImage := ⟨"ic_sinaweibo"⟩
def qqIcon : UIImage := ⟨"ic_qq"⟩
def douyinIcon : UIImage := ⟨"ic_douyin"⟩
def baiduIcon : UIImage := ⟨"ic_baidu"⟩
def youkuIcon : UIImage := ⟨"ic_youku"⟩
def meituanIcon : UIImage := ⟨"ic_meituan"⟩
def zhihuIcon : UIImage := ⟨"ic_zhihu"⟩
def meituIcon : UIImage := ⟨"ic_meitu"⟩
def doubanIcon : UIImage := ⟨"ic_douban"⟩
def youtubeIcon : UIImage := ⟨"ic_youtube"⟩
def vimeoIcon : UIImage := ⟨"ic_vimeo"⟩
def flickrIcon : UIImage := ⟨"ic_flickr"⟩
def quoraIcon : UIImage := ⟨"ic_quora"⟩
def googlePlusIcon : UIImage := ⟨"ic_googleplus"⟩
def myspaceIcon : UIImage := ⟨"ic_myspace"⟩
def meetupIcon : UIImage := ⟨"ic_meetup"⟩
def plurkIcon : UIImage := ⟨"ic_plurk"⟩
def vkIcon : UIImage := ⟨"ic_vk"⟩
def renrenIcon : UIImage := ⟨"ic_renren"⟩
def xingIcon : UIImage := ⟨"ic_xing"⟩
def livejournalIcon : UIImage := ⟨"ic_livejournal"⟩

end AppImages

structure ListApps where
  name : String
  link : String
  appicon : UIImage
deriving DecidableEq

structure AppDescriptionView where
  isHidden : Bool
  descriptionTextField : NSString
  appIconImage : UIImage
  appNameLabel : String

def AppDescriptionView.update (view : AppDescriptionView) : Option ListApps → AppDescriptionView
  | some app => { view with appIconImage := app.appicon, appNameLabel := app.name }
  | none => view

structure CustomListView where
  isHidden : Bool
  selectedApp : Option ListApps
  appDescriptionView : AppDescriptionView

namespace CustomListView

def listApps : List ListApps :=
  [⟨"Facebook", "www.facebook.com", AppImages.facebookIcon⟩,
    ⟨"Twitter", "www.twitter.com", AppImages.twitterIcon⟩,
    ⟨"Instagram", "www.instagram.com", AppImages.instagramIcon⟩,
    ⟨"LinkedIn", "www.linkedin.com", AppImages.linkedinIcon⟩,
    ⟨"Snapchat", "www.snapchat.com", AppImages.snapchatIcon⟩,
    ⟨"TikTok", "www.tiktok.com", AppImages.tiktokIcon⟩,
    ⟨"Pinterest", "www.pinterest.com", AppImages.pinterestIcon⟩,
    ⟨"WhatsApp", "www.whatsapp.com", AppImages.whatsappIcon⟩,
    ⟨"Reddit", "www.reddit.com", AppImages.redditIcon⟩,
    ⟨"Tumblr", "www.tumblr.com", AppImages.tumblrIcon⟩,
    ⟨"WeChat (China)", "www.wechat.com", AppImages.wechatIcon⟩,
    ⟨"Sina Weibo (China)", "www.sina.com", AppImages.sinaweiboIcon⟩,
    ⟨"QQ (China)", "www.qq.com", AppImages.qqIcon⟩,
    ⟨"Douyin (TikTok in China)", "www.douyin.com", AppImages.douyinIcon⟩,
    ⟨"Baidu Tieba (China)", "www.tieba.com", AppImages.baiduIcon⟩,
    ⟨"Youku Tudou (China)", "www.youku.com", AppImages.youkuIcon⟩,
    ⟨"Meituan-Dianping (China)", "www.meituan.com", AppImages.meituanIcon⟩,
    ⟨"Zhihu (China)", "www.zhihu.com", AppImages.zhihuIcon⟩,
    ⟨"Meitu (China)", "www.meitu.com", AppImages.meituIcon⟩,
    ⟨"Douban (China)", "www.douban.com", AppImages.doubanIcon⟩,
    ⟨"YouTube", "www.youtube.com", AppImages.youtubeIcon⟩,
    ⟨"Vimeo", "www.vimeo.com", AppImages.vimeoIcon⟩,
    ⟨"Flickr", "www.flickr.com", AppImages.flickrIcon⟩,
    ⟨"Quora", "www.quora.com", AppImages.quoraIcon⟩,
    ⟨"Google+", "www.google.com", AppImages.googlePlusIcon⟩,
    ⟨"Myspace", "www.myspace.com", AppImages.myspaceIcon⟩,
    ⟨"Meetup", "www.meetup.com", AppImages.meetupIcon⟩,
    ⟨"Plurk", "www.plurk.com", AppImages.plurkIcon⟩,
    ⟨"VKontakte (VK)", "www.vk.com", AppImages.vkIcon⟩,
    ⟨"Renren (China)", "www.renren.com", AppImages.renrenIcon⟩,
    ⟨"XING", "www.xing.com", AppImages.xingIcon⟩,
    ⟨"LiveJournal", "www.livejournal.com", AppImages.livejournalIcon⟩]

def configured : CustomListView :=
  ⟨true, none, ⟨true, [], ⟨"facebook-lite-icon"⟩, "FE Developer"⟩⟩

def didSelect (view : CustomListView) (app : ListApps) : CustomListView :=
  { view with
    selectedApp := some app
    appDescriptionView := { view.appDescriptionView with isHidden := false }.update (some app) }

-- The table asks for rows below numberOfRowsInSection only.
def didSelectRowAt (view : CustomListView) (row : Nat) : CustomListView :=
  match listApps[row]? with
  | some app => view.didSelect app
  | none => view

def didTapCloseAppDescriptionView (view : CustomListView) : CustomListView :=
  { view with appDescriptionView := { view.appDescriptionView with isHidden := true } }

def text (view : CustomListView) : NSString := view.appDescriptionView.descriptionTextField

def setText (view : CustomListView) (text : NSString) : CustomListView :=
  { view with appDescriptionView := { view.appDescriptionView with descriptionTextField := text } }

end CustomListView

def showListView (view : CustomListView) : CustomListView := { view with isHidden := false }
def didTapCloseListView (view : CustomListView) : CustomListView := { view with isHidden := true }

inductive ListEvent where
  | showListView
  | didSelectRowAt (row : Nat)
  | edit (range : NSRange) (string : Text)
  | didTapCloseAppDescriptionView
  | didTapCloseListView

structure ListScreen where
  view : CustomListView
  typedFor : List ListApps
  entered : ListApps → NSString

namespace ListScreen

def opened : ListScreen := ⟨CustomListView.configured, [], fun _ => []⟩

def edit (screen : ListScreen) (range : NSRange) (string : Text) : ListScreen :=
  match screen.view.selectedApp with
  | none => screen
  | some app =>
      if range.location + range.length ≤ screen.view.text.length then
        { view := screen.view.setText (replacingCharacters screen.view.text range string)
          typedFor := screen.typedFor.take range.location ++ List.replicate (utf16 string).length app ++
            screen.typedFor.drop (range.location + range.length)
          entered := Function.update screen.entered app (replacingCharacters (screen.entered app) range string) }
      else screen

def step (screen : ListScreen) : ListEvent → ListScreen
  | .showListView => { screen with view := DuplicatedApps.showListView screen.view }
  | .didSelectRowAt row =>
      if screen.view.isHidden then screen else { screen with view := screen.view.didSelectRowAt row }
  | .edit range string => screen.edit range string
  | .didTapCloseAppDescriptionView => { screen with view := screen.view.didTapCloseAppDescriptionView }
  | .didTapCloseListView => { screen with view := DuplicatedApps.didTapCloseListView screen.view }

def Selects (screen : ListScreen) (event : ListEvent) (app : ListApps) : Prop :=
  ∃ row, event = .didSelectRowAt row ∧ CustomListView.listApps[row]? = some app ∧ screen.view.isHidden = false

structure ShowsOnly (screen : ListScreen) (app : ListApps) : Prop where
  selected : screen.view.selectedApp = some app
  visible : screen.view.appDescriptionView.isHidden = false
  name : screen.view.appDescriptionView.appNameLabel = app.name
  icon : screen.view.appDescriptionView.appIconImage = app.appicon
  unmixed : ∀ typed ∈ screen.typedFor, typed = app
  own : screen.view.text = screen.entered app

def NeverMixes (screen : ListScreen) (event : ListEvent) : Prop :=
  ∀ app, screen.Selects event app → (screen.step event).ShowsOnly app

def FindsFieldEmpty (screen : ListScreen) (event : ListEvent) : Prop :=
  ∀ app, screen.Selects event app → screen.view.selectedApp ≠ some app → screen.view.text = []

structure Separate (screen : ListScreen) : Prop where
  aligned : screen.typedFor.length = screen.view.text.length
  unmixed : ∀ typed ∈ screen.typedFor, screen.view.selectedApp = some typed
  selected : ∀ app, screen.view.selectedApp = some app → screen.entered app = screen.view.text
  others : ∀ app, screen.view.selectedApp ≠ some app → screen.entered app = []

theorem step_selects (screen : ListScreen) (event : ListEvent) (app : ListApps) (selects : screen.Selects event app) :
    screen.step event = { screen with view := screen.view.didSelect app } := by
  obtain ⟨row, rfl, found, shown⟩ := selects
  simp [step, shown, CustomListView.didSelectRowAt, found]

theorem shows_only_iff (screen : ListScreen) (event : ListEvent) (separate : screen.Separate) :
    screen.NeverMixes event ↔ screen.FindsFieldEmpty event := by
  constructor
  · intro never app selects other
    have shows := never app selects
    rw [step_selects screen event app selects] at shows
    have nothing : screen.typedFor = [] := by
      apply List.eq_nil_iff_forall_not_mem.mpr
      intro typed member
      have own : typed = app := shows.unmixed typed member
      have was := separate.unmixed typed member
      rw [own] at was
      exact other was
    apply List.eq_nil_of_length_eq_zero
    rw [← separate.aligned, nothing, List.length_nil]
  · intro empty app selects
    rw [step_selects screen event app selects]
    by_cases again : screen.view.selectedApp = some app
    · apply ShowsOnly.mk rfl rfl rfl rfl
      · intro typed member
        have was := separate.unmixed typed member
        rw [again] at was
        exact (Option.some.inj was).symm
      · exact (separate.selected app again).symm
    · have cleared := empty app selects again
      apply ShowsOnly.mk rfl rfl rfl rfl
      · intro typed member
        have length := separate.aligned
        rw [cleared, List.length_nil] at length
        rw [List.eq_nil_of_length_eq_zero length] at member
        exact absurd member List.not_mem_nil
      · exact cleared.trans (separate.others app again).symm

theorem select_separate (screen : ListScreen) (app : ListApps) (separate : screen.Separate)
    (empty : screen.view.selectedApp ≠ some app → screen.view.text = []) :
    Separate { screen with view := screen.view.didSelect app } := by
  by_cases again : screen.view.selectedApp = some app
  · have kept : (screen.view.didSelect app).selectedApp = screen.view.selectedApp := again.symm
    obtain ⟨aligned, unmixed, selected, others⟩ := separate
    rw [← kept] at unmixed selected others
    exact ⟨aligned, unmixed, selected, others⟩
  · have cleared := empty again
    have nothing : screen.typedFor = [] := by
      apply List.eq_nil_of_length_eq_zero
      rw [separate.aligned, cleared, List.length_nil]
    have blank : ∀ other, screen.entered other = [] := by
      intro other
      by_cases was : screen.view.selectedApp = some other
      · rw [separate.selected other was, cleared]
      · exact separate.others other was
    apply Separate.mk
    · exact separate.aligned
    · intro typed member
      rw [nothing] at member
      exact absurd member List.not_mem_nil
    · intro other _
      exact (blank other).trans cleared.symm
    · intro other _
      exact blank other

theorem edit_separate (screen : ListScreen) (range : NSRange) (string : Text) (separate : screen.Separate) :
    (screen.edit range string).Separate := by
  rw [edit]
  cases selection : screen.view.selectedApp with
  | none => exact separate
  | some app =>
      by_cases inside : range.location + range.length ≤ screen.view.text.length
      · simp only [inside, if_true]
        have unchanged : ∀ text, (screen.view.setText text).selectedApp = some app := fun _ => selection
        apply Separate.mk
        · have aligned := separate.aligned
          simp only [CustomListView.text, CustomListView.setText, replacingCharacters, List.length_append,
            List.length_take, List.length_drop, List.length_replicate] at aligned inside ⊢
          omega
        · intro typed member
          have known : ∀ old ∈ screen.typedFor, old = app := by
            intro old was
            have same := separate.unmixed old was
            rw [selection] at same
            exact (Option.some.inj same).symm
          have now : typed = app := by
            rcases List.mem_append.mp member with front | after
            · rcases List.mem_append.mp front with before | inserted
              · exact known typed (List.mem_of_mem_take before)
              · exact List.eq_of_mem_replicate inserted
            · exact known typed (List.mem_of_mem_drop after)
          rw [unchanged, now]
        · intro other same
          rw [unchanged] at same
          obtain rfl := Option.some.inj same
          have own := separate.selected app selection
          exact (Function.update_self ..).trans (congrArg (replacingCharacters · range string) own)
        · intro other different
          rw [unchanged] at different
          have apart : other ≠ app := fun same => different (congrArg some same.symm)
          rw [← selection] at different
          exact (Function.update_of_ne apart _ _).trans (separate.others other different)
      · simp only [inside, if_false]
        exact separate

theorem step_separate (screen : ListScreen) (event : ListEvent) (separate : screen.Separate)
    (empty : screen.FindsFieldEmpty event) : (screen.step event).Separate := by
  cases event with
  | showListView => exact ⟨separate.aligned, separate.unmixed, separate.selected, separate.others⟩
  | didSelectRowAt row =>
      by_cases selects : ∃ app, screen.Selects (.didSelectRowAt row) app
      · obtain ⟨app, selects⟩ := selects
        rw [step_selects screen _ app selects]
        exact select_separate screen app separate (empty app selects)
      · have idle : screen.step (.didSelectRowAt row) = screen := by
          cases shown : screen.view.isHidden with
          | true => simp [step, shown]
          | false =>
              cases found : CustomListView.listApps[row]? with
              | none => simp [step, shown, CustomListView.didSelectRowAt, found]
              | some app => exact absurd ⟨app, row, rfl, found, shown⟩ selects
        rw [idle]
        exact separate
  | edit range string => exact edit_separate screen range string separate
  | didTapCloseAppDescriptionView => exact ⟨separate.aligned, separate.unmixed, separate.selected, separate.others⟩
  | didTapCloseListView => exact ⟨separate.aligned, separate.unmixed, separate.selected, separate.others⟩

theorem opened_separate : opened.Separate :=
  ⟨rfl, fun _ member => absurd member List.not_mem_nil, fun _ _ => rfl, fun _ _ => rfl⟩

end ListScreen

-- Two apps never share the description exactly in the histories that leave the field
-- empty whenever the selection moves to another app; nothing else ever empties it.
theorem description_never_mixes (events : List ListEvent) :
    Along ListScreen.step ListScreen.NeverMixes ListScreen.opened events ↔
      Along ListScreen.step ListScreen.FindsFieldEmpty ListScreen.opened events := by
  apply along_iff _ _ _ ListScreen.Separate
  · intro screen event separate empty
    exact ListScreen.step_separate screen event separate empty
  · intro screen event separate
    exact ListScreen.shows_only_iff screen event separate
  · exact ListScreen.opened_separate

theorem description_mixes_two_apps :
    ¬ Along ListScreen.step ListScreen.NeverMixes ListScreen.opened
      [.showListView, .didSelectRowAt 0, .edit ⟨0, 0⟩ ['a'], .didTapCloseAppDescriptionView, .didSelectRowAt 1] := by
  intro never
  obtain ⟨_, _, _, _, last, _⟩ := never
  have shows := last ⟨"Twitter", "www.twitter.com", AppImages.twitterIcon⟩ ⟨1, rfl, rfl, rfl⟩
  have typed := shows.unmixed ⟨"Facebook", "www.facebook.com", AppImages.facebookIcon⟩ (by decide)
  exact absurd typed (by decide)

namespace ListScreen

def selections (screen : ListScreen) : ListEvent → List ListApps
  | .didSelectRowAt row => if screen.view.isHidden then [] else CustomListView.listApps[row]?.toList
  | _ => []

def edits (screen : ListScreen) : ListEvent → List (NSRange × Text)
  | .edit range string =>
      if screen.view.selectedApp ≠ none ∧ range.location + range.length ≤ screen.view.text.length then [(range, string)] else []
  | _ => []

structure FollowsSelections (selected : List ListApps) (screen : ListScreen) : Prop where
  last : screen.view.selectedApp = selected.getLast?
  listed : ∀ app ∈ selected, app ∈ CustomListView.listApps
  name : ∀ app, selected.getLast? = some app → screen.view.appDescriptionView.appNameLabel = app.name
  icon : ∀ app, selected.getLast? = some app → screen.view.appDescriptionView.appIconImage = app.appicon
  untouched : selected = [] → screen.view.appDescriptionView = CustomListView.configured.appDescriptionView

def retyped (edits : List (NSRange × Text)) : NSString :=
  edits.foldl (fun text edit => replacingCharacters text edit.1 edit.2) []

theorem edit_follows (selected : List ListApps) (screen : ListScreen) (range : NSRange) (string : Text)
    (follows : screen.FollowsSelections selected) : (screen.edit range string).FollowsSelections selected := by
  rw [edit]
  cases selection : screen.view.selectedApp with
  | none => exact follows
  | some app =>
      by_cases inside : range.location + range.length ≤ screen.view.text.length
      · simp only [inside, if_true]
        refine ⟨follows.last, follows.listed, follows.name, follows.icon, ?_⟩
        intro nothing
        have last := follows.last
        rw [selection, nothing] at last
        cases last
      · simp only [inside, if_false]
        exact follows

theorem select_follows (selected : List ListApps) (screen : ListScreen) (row : Nat)
    (follows : screen.FollowsSelections selected) :
    (screen.step (.didSelectRowAt row)).FollowsSelections (selected ++ screen.selections (.didSelectRowAt row)) := by
  rw [step, selections]
  by_cases hidden : screen.view.isHidden = true
  · rw [if_pos hidden, if_pos hidden, List.append_nil]
    exact follows
  · rw [if_neg hidden, if_neg hidden, CustomListView.didSelectRowAt]
    cases found : CustomListView.listApps[row]? with
    | none =>
        rw [Option.toList_none, List.append_nil]
        exact follows
    | some app =>
        rw [Option.toList_some]
        have last : (selected ++ [app]).getLast? = some app := List.getLast?_concat ..
        apply FollowsSelections.mk
        · exact last.symm
        · intro other member
          rcases List.mem_append.mp member with earlier | now
          · exact follows.listed other earlier
          · rw [List.mem_singleton.mp now]
            exact List.mem_of_getElem? found
        · intro other same
          rw [last] at same
          exact congrArg ListApps.name (Option.some.inj same)
        · intro other same
          rw [last] at same
          exact congrArg ListApps.appicon (Option.some.inj same)
        · intro nothing
          exact absurd nothing (List.append_ne_nil_of_right_ne_nil _ (List.cons_ne_nil app []))

theorem quiet_follows (selected : List ListApps) (screen : ListScreen) (event : ListEvent)
    (quiet : screen.selections event = []) (kept : (screen.step event).FollowsSelections selected) :
    (screen.step event).FollowsSelections (selected ++ screen.selections event) := by
  rw [quiet, List.append_nil]
  exact kept

theorem step_follows (selected : List ListApps) (screen : ListScreen) (event : ListEvent)
    (follows : screen.FollowsSelections selected) :
    (screen.step event).FollowsSelections (selected ++ screen.selections event) := by
  have quiet := quiet_follows selected screen event
  cases event with
  | didSelectRowAt row => exact select_follows selected screen row follows
  | edit range string => exact quiet rfl (edit_follows selected screen range string follows)
  | didTapCloseAppDescriptionView =>
      refine quiet rfl ⟨follows.last, follows.listed, follows.name, follows.icon, ?_⟩
      intro nothing
      show { screen.view.appDescriptionView with isHidden := true } = _
      rw [follows.untouched nothing]
      rfl
  | showListView => exact quiet rfl ⟨follows.last, follows.listed, follows.name, follows.icon, follows.untouched⟩
  | didTapCloseListView => exact quiet rfl ⟨follows.last, follows.listed, follows.name, follows.icon, follows.untouched⟩

theorem retyped_snoc (typed : List (NSRange × Text)) (range : NSRange) (string : Text) :
    retyped (typed ++ [(range, string)]) = replacingCharacters (retyped typed) range string := by
  rw [retyped, List.foldl_append]
  rfl

theorem step_retyped (typed : List (NSRange × Text)) (screen : ListScreen) (event : ListEvent)
    (text : screen.view.text = retyped typed) : (screen.step event).view.text = retyped (typed ++ screen.edits event) := by
  cases event with
  | edit range string =>
      rw [step, edit, edits]
      cases selection : screen.view.selectedApp with
      | none => simpa [selection] using text
      | some app =>
          by_cases inside : range.location + range.length ≤ screen.view.text.length
          · simp only [inside, if_true, ne_eq, reduceCtorEq, not_false_eq_true, and_self]
            rw [retyped_snoc, ← text]
            rfl
          · simpa [inside] using text
  | didSelectRowAt row =>
      show (screen.step (.didSelectRowAt row)).view.text = retyped (typed ++ [])
      rw [List.append_nil, ← text, step]
      by_cases hidden : screen.view.isHidden = true
      · rw [if_pos hidden]
      · rw [if_neg hidden]
        cases found : CustomListView.listApps[row]? with
        | none => simp [CustomListView.didSelectRowAt, found]
        | some app =>
            simp [CustomListView.didSelectRowAt, found, CustomListView.didSelect, CustomListView.text,
              AppDescriptionView.update]
  | showListView => exact text.trans (congrArg retyped (List.append_nil typed).symm)
  | didTapCloseAppDescriptionView => exact text.trans (congrArg retyped (List.append_nil typed).symm)
  | didTapCloseListView => exact text.trans (congrArg retyped (List.append_nil typed).symm)

end ListScreen

theorem description_follows_history (events : List ListEvent) :
    (run ListScreen.step ListScreen.opened events).FollowsSelections
        (outputs ListScreen.step ListScreen.selections ListScreen.opened events) ∧
      (run ListScreen.step ListScreen.opened events).view.text =
        ListScreen.retyped (outputs ListScreen.step ListScreen.edits ListScreen.opened events) := by
  apply And.intro
  · apply invariant_outputs ListScreen.step ListScreen.selections (fun selected screen => screen.FollowsSelections selected)
    · intro selected screen event follows
      exact ListScreen.step_follows selected screen event follows
    · apply ListScreen.FollowsSelections.mk rfl
      · intro app none
        exact absurd none List.not_mem_nil
      · intro app none
        cases none
      · intro app none
        cases none
      · exact fun _ => rfl
  · apply invariant_outputs ListScreen.step ListScreen.edits (fun typed screen => screen.view.text = ListScreen.retyped typed)
    · intro typed screen event text
      exact ListScreen.step_retyped typed screen event text
    · rfl

end DuplicatedApps
