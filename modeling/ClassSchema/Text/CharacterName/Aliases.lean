/-!
# Character names: aliases

Further names that some characters have beside or instead of their own: names and abbreviations of
control characters, and corrections.
-/

namespace ClassSchema.Text.CharacterName

/-- Further names of characters. -/
def aliases : List String :=
  ["@0aNULLaSTART OF HEADINGcTEXTaEND~~cTRANSMISSIONaENQUIRYaACKNOWLEDGEaALERTaBACKSPACE",
   "aCHARACTER TABULATIONaLINE FEEDbTABULATIONaFORM FEEDaCARRIAGE RETURNaSHIFT OUTbIN",
   "aDATA LINK ESCAPEaDEVICE CONTROL ONEcTWOcTHREEcFOURaNEGATIVE ACKNOWLEDGEaSYNCHRONOUS IDLE",
   "aEND OF TRANSMISSION BLOCKaCANCELaEND OF MEDIUMaSUBSTITUTEaESCAPEaINFORMATION SEPARATOR FOUR",
   "cTHREEcTWOcONEaSP@7FaDELETEaPADDING CHARACTERaHIGH OCTET PRESETaBREAK PERMITTED HEREaNO BREAK~",
   "aINDEXaNEXT LINEaSTART OF SELECTED AREAaEND~~~aCHARACTER TABULATION SETcWITH JUSTIFICATION",
   "aLINE TABULATION SETaPARTIAL LINE FORWARDcBACKWARDaREVERSE LINE FEEDaSINGLE SHIFT TWOcTHREE",
   "aDEVICE CONTROL STRINGaPRIVATE USE ONEcTWOaSET TRANSMIT STATEaCANCEL CHARACTERaMESSAGE WAITING",
   "aSTART OF GUARDED AREAaEND~~~aSTART OF STRINGaSINGLE GRAPHIC CHARACTER INTRODUCERb~~",
   "aCONTROL SEQUENCE~aSTRING TERMINATORaOPERATING SYSTEM COMMANDaPRIVACY MESSAGE",
   "aAPPLICATION PROGRAM COMMANDaNBSP@ADaSHY@1A2aLATIN CAPITAL LETTER GHAbSMALL~~@34FaCGJ@61CaALM",
   "@709aSYRIAC SUBLINEAR COLON SKEWED LEFT@CDEaKANNADA LETTER LLLA@E9DaLAO LETTER FO FON@E9FdFAY",
   "@EA3cRO@EA5cLO@FD0aTIBETAN MARK BKA- SHOG GI MGO RGYAN@11ECaHANGUL JONGSEONG YESIEUNG-KIYEOK",
   "cYESIEUNG-SSANGKIYEOKcSSANGYESIEUNGcYESIEUNG-KHIEUKH@180BaFVS1+2aMVSaFVS4@200BaZWSPaZWNJaZWJ",
   "aLRMaRLM@202AaLREaRLEaPDFaLROaRLOaNNBSP@205FaMMSPaWJ@2066aLRIaRLIaFSIaPDI@2118",
   "aWEIERSTRASS ELLIPTIC FUNCTION@2448aMICR ON US SYMBOLbDASH~@2B7A",
   "aLEFTWARDS TRIANGLE-HEADED ARROW WITH DOUBLE VERTICAL STROKE@2B7CaRIGHTWARDS~~~~~~@A015",
   "aYI SYLLABLE ITERATION MARK@AA6EaMYANMAR LETTER KHAMTI LLA@FE18",
   "aPRESENTATION FORM FOR VERTICAL RIGHT WHITE LENTICULAR BRACKET@FEFFaBYTE ORDER MARK@122D4",
   "aCUNEIFORM SIGN NU11 TENUdOVER NU11 BUR OVER BUR@16E56aMEDEFAIDRIN CAPITAL LETTER HdNG@16E76",
   "bSMALL LETTER HdNG@1B001aHENTAIGANA LETTER E-1@1D0C5",
   "aBYZANTINE MUSICAL SYMBOL FTHORA SKLIRON CHROMA VASIS@0aNULaSOHaSTXaETXaEOTaENQaACKaBELaBS",
   "aHORIZONTAL TABULATIONaNEW LINEaVERTICAL TABULATIONaFFaCRaLOCKING-SHIFT ONEbZEROaDLEaDC1+3aNAK",
   "aSYNaETBaCANaEOMaSUBaESCaFILE SEPARATORaGROUP~aRECORD~aUNIT~@7FaDELaPADaHOPaBPHaNBHaINDaNEL",
   "aSSAaESAaHORIZONTAL TABULATION SETcWITH JUSTIFICATIONaVERTICAL TABULATION SET",
   "aPARTIAL LINE DOWNcUPaREVERSE INDEXaSINGLE-SHIFT-2+1aDCSaPRIVATE USE-1+1aSTSaCCHaMW",
   "aSTART OF PROTECTED AREAaEND~~~aSOSaSGCaSCIaCSIaSTaOSCaPMaAPC@FEFFaBOM@9aHTaEND OF LINEaVT@E",
   "aSOaSI@19aEM@1CaFSaGSaRSaUS@88aHTSaHTJaVTSaPLDaPLUaRIaSS2+1@91aPU1+1@96aSPAaEPA@FEFFaZWNBSP@9",
   "aTABaEOL@AaLF@AaNL@FE00aVS1+15@E0100+240"]

end ClassSchema.Text.CharacterName
