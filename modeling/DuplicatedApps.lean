import DuplicatedApps.Runs
import DuplicatedApps.Pattern
import DuplicatedApps.Rounding
import DuplicatedApps.Foundation
import DuplicatedApps.AuthService
import DuplicatedApps.Registration
import DuplicatedApps.PasswordFlow
import DuplicatedApps.AlertManager
import DuplicatedApps.Validator
import DuplicatedApps.EmailGrammar
import DuplicatedApps.PasswordPolicy
import DuplicatedApps.Forms
import DuplicatedApps.PasswordMeter
import DuplicatedApps.HexColor
import DuplicatedApps.App
import DuplicatedApps.Effects
import DuplicatedApps.SessionScreen
import DuplicatedApps.Navigation
import DuplicatedApps.Checks
import DuplicatedApps.Notices
import DuplicatedApps.Submission
import DuplicatedApps.Documents
import DuplicatedApps.Linearisation
import DuplicatedApps.Provenance
import DuplicatedApps.SignInTaps
import DuplicatedApps.RegistrationStages
import DuplicatedApps.Resubmission
import DuplicatedApps.Settling
import DuplicatedApps.EntryScreens
import DuplicatedApps.EntryTexts
import DuplicatedApps.Typing
import DuplicatedApps.SlidePages
import DuplicatedApps.Slideshow
import DuplicatedApps.SlideTicks
import DuplicatedApps.WelcomeWindow
import DuplicatedApps.AppList
