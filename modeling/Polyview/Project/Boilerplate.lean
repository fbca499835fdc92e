import Polyview.Template.Library

/-!
# Boilerplate

The templates of the files that every project for a platform needs. They ask for the name of the
application only.
-/

namespace Polyview

/-- A file that is the same for every interface. -/
inductive Boilerplate where
  | xcodeProject
  | bundleInformation
  | solution
  | windowsProject
  | windowsApplication
  | windowsApplicationCode
  | makefile
  deriving DecidableEq, Repr

namespace Boilerplate

def all : List Boilerplate :=
  [.xcodeProject, .bundleInformation, .solution, .windowsProject, .windowsApplication,
    .windowsApplicationCode, .makefile]

def name : Boilerplate → String
  | .xcodeProject => "pbxproj"
  | .bundleInformation => "info_plist"
  | .solution => "sln"
  | .windowsProject => "csproj"
  | .windowsApplication => "app_xaml"
  | .windowsApplicationCode => "app_cs"
  | .makefile => "makefile"

def lines : Boilerplate → List String
  | .xcodeProject =>
      ["// Placeholder PBX project for \x7b\x7bapp_name\x7d\x7d",
        "// Replace with a generated project.pbxproj before building"]
  | .bundleInformation =>
      ["<?xml version=\"1.0\" encoding=\"UTF-8\"?>",
        "<!DOCTYPE plist PUBLIC \"-//Apple//DTD PLIST 1.0//EN\" " ++
          "\"http://www.apple.com/DTDs/PropertyList-1.0.dtd\">",
        "<plist version=\"1.0\">",
        "<dict>",
        "    <key>CFBundleName</key>",
        "    <string>\x7b\x7bxml app_name\x7d\x7d</string>",
        "</dict>",
        "</plist>"]
  | .solution =>
      ["Microsoft Visual Studio Solution File, Format Version 12.00",
        "# Visual Studio Version 17",
        "Project(\"\x7b9A19103F-16F7-4668-BE54-9A1E7A4F7556\x7d\") = " ++
          "\"\x7b\x7bapp_name\x7d\x7d\", \"\x7b\x7bapp_name\x7d\x7d.csproj\", " ++
          "\"\x7b00000000-0000-0000-0000-000000000000\x7d\"",
        "EndProject"]
  | .windowsProject =>
      ["<Project Sdk=\"Microsoft.NET.Sdk\">",
        "  <PropertyGroup>",
        "    <OutputType>WinExe</OutputType>",
        "    <TargetFramework>net6.0-windows</TargetFramework>",
        "    <RootNamespace>\x7b\x7btype_name app_name\x7d\x7d</RootNamespace>",
        "    <UseWinUI>true</UseWinUI>",
        "  </PropertyGroup>",
        "  <ItemGroup>",
        "    <Page Include=\"MainPage.xaml\">",
        "      <Generator>MSBuild:Compile</Generator>",
        "      <SubType>Designer</SubType>",
        "    </Page>",
        "  </ItemGroup>",
        "</Project>"]
  | .windowsApplication =>
      ["<Application",
        "    x:Class=\"\x7b\x7btype_name app_name\x7d\x7d.App\"",
        "    xmlns=\"http://schemas.microsoft.com/winfx/2006/xaml/presentation\"",
        "    xmlns:x=\"http://schemas.microsoft.com/winfx/2006/xaml\"",
        "    >",
        "    <Application.Resources>",
        "    </Application.Resources>",
        "</Application>"]
  | .windowsApplicationCode =>
      ["using Microsoft.UI.Xaml;",
        "",
        "namespace \x7b\x7btype_name app_name\x7d\x7d",
        "\x7b",
        "    public partial class App : Application",
        "    \x7b",
        "        public App()",
        "        \x7b",
        "            this.InitializeComponent();",
        "        \x7d",
        "",
        "        protected override void " ++
          "OnLaunched(Microsoft.UI.Xaml.LaunchActivatedEventArgs args)",
        "        \x7b",
        "            m_window = new MainWindow();",
        "            m_window.Activate();",
        "        \x7d",
        "",
        "        private Window m_window;",
        "    \x7d",
        "\x7d"]
  | .makefile =>
      ["all:",
        "\tswiftc LinuxUI.swift -o \x7b\x7bsnake_case app_name\x7d\x7d"]

def text (kind : Boilerplate) : String := String.join (kind.lines.map (fun line => line ++ "\n"))

def library? : Option Template.Library :=
  all.foldlM (fun library kind => library.register? kind.name kind.text) .empty

end Boilerplate

end Polyview
