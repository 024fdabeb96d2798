import AppSettings.Js
import AppSettings.Repositories
import AppSettings.Rows
import AppSettings.RepositoryEdits
import AppSettings.Settings
import AppSettings.FormAction
import AppSettings.Screen
import AppSettings.Loaded
import AppSettings.Flags
import AppSettings.ApiKey
import AppSettings.ScreenRows
import AppSettings.RepositoryTypes
import AppSettings.SaveRoundTrip
import AppSettings.SearchInput
import AppSettings.TypeSelect
